import ResourceEditor.Proofs.Controller.Component
import ResourceEditor.Proofs.Controller.Hosts
/-
This file says what web addresses look like after they were read, and that one that is written in
its normal form is read back as it is, as far as its host is.
-/

namespace ResourceEditor

open Text

namespace Url

/-! Who asks, the host and the port. -/

theorem cutLast_append {mark : Char} {after : List Char} (absent : mark ∉ after)
    (before : List Char) : cutLast mark (before ++ mark :: after) = some (before, after) := by
  have inside (c : Char) (member : c ∈ after.reverse) : (c != mark) = true :=
    bne_iff_ne.mpr fun same => absent (same ▸ List.mem_reverse.mp member)
  have turned : (before ++ mark :: after).reverse = after.reverse ++ mark :: before.reverse := by
    rw [List.reverse_append, List.reverse_cons, List.append_assoc]
    rfl
  have marked : (mark :: before.reverse).takeWhile (· != mark) = [] ∧
      (mark :: before.reverse).dropWhile (· != mark) = mark :: before.reverse := by
    rw [List.takeWhile_cons_of_neg (by simp), List.dropWhile_cons_of_neg (by simp)]
    exact ⟨rfl, rfl⟩
  rw [cutLast, if_pos (by simp), turned, List.dropWhile_append_of_pos inside,
    List.takeWhile_append_of_pos inside, marked.1, marked.2, List.tail_cons, List.reverse_reverse,
    List.append_nil, List.reverse_reverse]

theorem cutLast_none {mark : Char} {text : List Char} (absent : mark ∉ text) :
    cutLast mark text = none := by
  rw [cutLast, if_neg (by simpa using absent)]

/-- In brackets a port does not begin. -/
theorem splitPort_brackets {inner : List Char} (absent : ']' ∉ inner) (rest : List Char) :
    splitPort true (inner ++ ']' :: rest) =
      (inner ++ ']' :: (splitPort false rest).1, (splitPort false rest).2) := by
  induction inner with
  | nil => rfl
  | cons c inner ih =>
      obtain ⟨other, absent⟩ := not_or.mp fun member => absent (List.mem_cons.mpr member)
      have stays : (c == '[' || (true && c != ']')) = true := by
        rw [Bool.true_and, bne_iff_ne.mpr (Ne.symm other), Bool.or_true]
      rw [List.cons_append, splitPort, Bool.not_true, Bool.and_false, if_neg Bool.false_ne_true,
        stays, ih absent]
      rfl

theorem splitPort_written {host : List Char} (written : Host.IsWritten host)
    (port : Option (List Char)) : splitPort false (host ++ marked ':' port) = (host, port) := by
  have ends : splitPort false (marked ':' port) = ([], port) := by cases port <;> rfl
  cases written with
  | bare some plain =>
      clear some
      induction host with
      | nil => exact ends
      | cons c host ih =>
          obtain ⟨first, plain⟩ := List.forall_mem_cons.mp plain
          have noColon : (c == ':' && !false) = false := by
            rw [Bool.not_false, Bool.and_true, beq_eq_false_iff_ne]
            rintro rfl
            cases first
          have noBracket : (c == '[' || (false && c != ']')) = false := by
            rw [Bool.false_and, Bool.or_false, beq_eq_false_iff_ne]
            rintro rfl
            cases first
          rw [List.cons_append, splitPort, noColon, if_neg Bool.false_ne_true, noBracket, ih plain]
  | bracketed plain =>
      rename_i inner
      have absent : ']' ∉ inner := fun member => by
        cases (plain _ member).resolve_left (by decide)
      rw [List.cons_append, List.append_assoc, List.singleton_append, splitPort]
      have opens : ('[' == ':' && !false) = false := by decide
      rw [opens, if_neg Bool.false_ne_true]
      have inside : ('[' == '[' || (false && '[' != ']')) = true := by decide
      rw [inside, splitPort_brackets absent, ends]

end Url

/-- What the authority of a web address is after it was read. -/
structure Authority.IsWritten (scheme : String) (authority : Authority) : Prop where
  user : Url.IsEncoded Url.inUser authority.user
  password : Url.IsEncoded Url.inUser authority.password
  known : ∃ text, Host.read text = .ok authority.host
  port : ∀ port, authority.port = some port → port ≤ 65535 ∧ Url.defaultPort? scheme ≠ some port

theorem Authority.IsWritten.host {scheme : String} {authority : Authority}
    (written : authority.IsWritten scheme) : Host.IsWritten authority.host.toList := by
  obtain ⟨text, read⟩ := written.known
  exact Host.isWritten_of_read read

namespace Url

variable {scheme : String} {authority : Authority}

theorem toList_toString (n : Nat) : (toString n).toList = Nat.toDigits 10 n := by
  rw [Nat.toString_eq_ofList_toDigits, String.toList_ofList]

theorem readDigits_toDigits (n : Nat) : Decimal.readDigits (Nat.toDigits 10 n) = some n :=
  Decimal.readDigits_eq_some_iff.mpr ⟨Nat.toDigits_ne_nil, Decimal.areDigits_toDigits n,
    Nat.ofDigitChars_ten_toDigits.symm⟩

theorem readPort_written (written : authority.IsWritten scheme) :
    readPort scheme (authority.port.map fun port => (toString port).toList) =
      .ok authority.port := by
  cases given : authority.port with
  | none => rfl
  | some port =>
      obtain ⟨fits, other⟩ := written.port port given
      have read := readDigits_toDigits port
      rw [Option.map_some, toList_toString]
      cases digits : Nat.toDigits 10 port with
      | nil => exact absurd digits Nat.toDigits_ne_nil
      | cons c rest =>
          rw [digits] at read
          rw [readPort, read, Option.filter_some, if_pos (decide_eq_true fits)]
          · dsimp only
            rw [if_neg other]
          · exact nofun

/-- The login before the host, with the mark after it. -/
theorem toList_renderLogin (authority : Authority) :
    (authority.user = "" ∧ authority.password = "" ∧ renderLogin authority = "") ∨
      ∃ password : Option (List Char), password.getD [] = authority.password.toList ∧
        (renderLogin authority).toList = authority.user.toList ++ marked ':' password ++ ['@'] := by
  rw [renderLogin]
  split
  next silent =>
    split
    next nobody => exact .inl ⟨String.isEmpty_iff.mp nobody, String.isEmpty_iff.mp silent, rfl⟩
    next =>
      refine .inr ⟨none, by rw [String.isEmpty_iff.mp silent]; rfl, ?_⟩
      rw [String.toList_append, marked, List.append_nil]
      rfl
  next =>
    refine .inr ⟨some authority.password.toList, rfl, ?_⟩
    simp only [String.toList_append, marked]
    rw [List.append_assoc authority.user.toList]
    rfl

theorem toList_renderAuthority (authority : Authority) :
    (renderAuthority authority).toList = (renderLogin authority).toList ++ (authority.host.toList ++
      marked ':' (authority.port.map fun port => (toString port).toList)) := by
  rw [renderAuthority, String.toList_append, String.toList_append, List.append_assoc]
  cases authority.port with
  | none => rfl
  | some port =>
      dsimp only
      rw [String.toList_append]
      rfl

theorem mem_port {port : Option Nat} {c : Char}
    (member : c ∈ marked ':' (port.map fun port => (toString port).toList)) :
    c = ':' ∨ Host.isForbiddenInDomain c = false := by
  cases port with
  | none => cases member
  | some port =>
      rw [Option.map_some, toList_toString] at member
      obtain same | member := List.mem_cons.mp member
      · exact .inl same
      · obtain ⟨digit, small, rfl⟩ := mem_toDigits (by decide) member
        exact .inr (Host.plain_digit (by omega))

theorem mem_renderAuthority (written : authority.IsWritten scheme) {c : Char}
    (member : c ∈ (renderAuthority authority).toList) :
    c ∈ "[]:@".toList ∨ inUser c = false ∨ Host.isForbiddenInDomain c = false := by
  rw [toList_renderAuthority, List.mem_append, List.mem_append] at member
  obtain member | member | member := member
  · obtain ⟨_, _, silent⟩ | ⟨password, same, login⟩ := toList_renderLogin authority
    · rw [silent] at member
      cases member
    · rw [login, List.mem_append, List.mem_append, List.mem_singleton] at member
      obtain (member | member) | rfl := member
      · exact .inr (.inl (written.user c member))
      · cases password with
        | none => cases member
        | some password =>
            obtain rfl | member := List.mem_cons.mp member
            · exact .inl (by decide)
            · rw [Option.getD_some] at same
              exact .inr (.inl (written.password c (same ▸ member)))
      · exact .inl (by decide)
  · obtain special | plain := written.host.mem member
    · exact .inl (of_all (· ∈ "[]:@".toList) (by decide) special)
    · exact .inr (.inr plain)
  · obtain rfl | plain := mem_port member
    · exact .inl (by decide)
    · exact .inr (.inr plain)

theorem readAuthority_render (web : isWeb scheme = true) (written : authority.IsWritten scheme) :
    readAuthority scheme (renderAuthority authority).toList =
      (Host.read authority.host.toList).map fun host => { authority with host } := by
  have port := readPort_written written
  have split := splitPort_written written.host
    (authority.port.map fun port => (toString port).toList)
  have noLogin : '@' ∉ authority.host.toList ++
      marked ':' (authority.port.map fun port => (toString port).toList) := by
    intro member
    obtain member | member := List.mem_append.mp member
    · cases (written.host.mem member).resolve_left (by decide)
    · cases (mem_port member).resolve_left (by decide)
  rw [toList_renderAuthority]
  generalize authority.port.map (fun port => (toString port).toList) = digits
    at port split noLogin ⊢
  have some : authority.host.toList.isEmpty = false :=
    List.isEmpty_eq_false_iff.mpr written.host.ne_nil
  have read (login : List Char) (password : Option (List Char)) (text : List Char)
      (cuts : (cutLast '@' text).getD ([], text) =
        (login, authority.host.toList ++ marked ':' digits))
      (parts : cut ':' login = (authority.user.toList, password))
      (same : password.getD [] = authority.password.toList) :
      readAuthority scheme text =
        (Host.read authority.host.toList).map fun host => { authority with host } := by
    rw [readAuthority]
    simp only [cuts, parts, split, some, same, web, port, if_pos, Bool.false_and,
      if_neg Bool.false_ne_true, encode_encoded written.user, encode_encoded written.password]
    cases Host.read authority.host.toList <;> rfl
  obtain ⟨nobody, silent, nothing⟩ | ⟨password, same, login⟩ := toList_renderLogin authority
  · refine read [] none _ ?_ (by rw [nobody]; rfl) (by rw [silent]; rfl)
    rw [nothing, String.toList_empty, List.nil_append, cutLast_none noLogin, Option.getD_none]
  · refine read (authority.user.toList ++ marked ':' password) password _ ?_ ?_ same
    · rw [login, List.append_assoc, List.singleton_append, cutLast_append noLogin, Option.getD_some]
    · refine cut_marked (fun member => ?_) password
      cases written.user ':' member

theorem fits_of_readPort {text : Option (List Char)} {port : Nat}
    (found : readPort scheme text = .ok (some port)) :
    port ≤ 65535 ∧ defaultPort? scheme ≠ some port := by
  rw [readPort.eq_def] at found
  split at found
  next => cases found
  next => cases found
  next digits _ =>
    cases read : (Decimal.readDigits digits).filter (decide <| · ≤ 65535) with
    | none =>
        rw [read] at found
        cases found
    | some number =>
        rw [read] at found
        obtain ⟨_, fits⟩ := Option.filter_eq_some_iff.mp read
        dsimp only at found
        split at found
        next => cases found
        next other =>
          cases found
          exact ⟨of_decide_eq_true fits, other⟩

theorem isWritten_of_readAuthority (web : isWeb scheme = true) {text : List Char}
    (found : readAuthority scheme text = .ok authority) : authority.IsWritten scheme := by
  rw [readAuthority] at found
  dsimp only at found
  generalize (cutLast '@' text).getD ([], text) = parts at found
  split at found
  next => cases found
  next =>
    generalize splitPort false parts.2 = address at found
    cases host : Host.read address.1 with
    | error fault =>
        rw [host] at found
        cases found
    | ok name =>
        cases port : readPort scheme address.2 with
        | error fault =>
            rw [host, port] at found
            cases found
        | ok number =>
            rw [host, port] at found
            cases found
            refine ⟨isEncoded_encode spares_inUser _, isEncoded_encode spares_inUser _,
              ⟨_, host⟩, ?_⟩
            rintro port' rfl
            exact fits_of_readPort port

/-! Whole addresses. -/

theorem clean_visible {text : List Char} (visible : ∀ c ∈ text, 0x20 < c.toNat) :
    clean (String.ofList text) = text := by
  have stays (c : Char) (member : c ∈ text) : decide (c.toNat ≤ 0x20) = false :=
    decide_eq_false (Nat.not_le.mpr (visible c member))
  have dropFirst {text : List Char} (stays : ∀ c ∈ text, decide (c.toNat ≤ 0x20) = false) :
      text.dropWhile (fun c => decide (c.toNat ≤ 0x20)) = text := by
    cases text with
    | nil => rfl
    | cons c text => rw [List.dropWhile_cons_of_neg (by simp [stays c List.mem_cons_self])]
  rw [clean, String.toList_ofList, dropFirst stays, dropLastWhile,
    dropFirst fun c member => stays c (List.mem_reverse.mp member), List.reverse_reverse,
    List.filter_eq_self]
  intro c member
  have seen := visible c member
  have other {d : Char} (unseen : d.toNat ≤ 0x20) : (c != d) = true := by
    refine bne_iff_ne.mpr ?_
    rintro rfl
    omega
  rw [other (by decide), other (by decide), other (by decide)]
  rfl

theorem mem_schemes (web : isWeb scheme = true) :
    scheme ∈ ["http", "https", "ws", "wss", "ftp"] := by
  obtain ⟨port, found⟩ := Option.isSome_iff_exists.mp web
  obtain ⟨before, after, table, _⟩ := List.lookup_eq_some_iff.mp found
  have among : (scheme, port) ∈ before ++ (scheme, port) :: after := by simp
  rw [← table] at among
  exact List.mem_map_of_mem (f := Prod.fst) among

theorem splitScheme_web (web : isWeb scheme = true) (rest : List Char) :
    splitScheme (scheme.toList ++ ':' :: rest) = .ok (scheme, rest) := by
  have read : ∀ scheme ∈ ["http", "https", "ws", "wss", "ftp"], ':' ∉ scheme.toList ∧
      (scheme.toList.head?.any Char.isAlpha && scheme.toList.tail.all
        fun d => d.isAlphanum || d == '+' || d == '-' || d == '.') = true ∧
      asciiLower scheme = scheme := by
    decide +kernel
  obtain ⟨absent, allowed, lower⟩ := read scheme (mem_schemes web)
  have cuts := cut_marked absent (some rest)
  rw [marked] at cuts
  rw [splitScheme, cuts]
  cases letters : scheme.toList with
  | nil =>
      rw [letters] at allowed
      cases allowed
  | cons c others =>
      rw [letters] at allowed
      dsimp only
      rw [if_pos (by simpa using allowed), ← letters, String.ofList_toList, lower]

/-- What a web address is after it was read. -/
structure IsWritten (url : Url) (authority : Authority) (names : List String) : Prop where
  web : isWeb url.scheme = true
  someone : url.authority = some authority
  authority : authority.IsWritten url.scheme
  path : url.path = .segments names
  rooted : names ≠ []
  segments : ∀ name ∈ names, IsSegment name
  query : ∀ query, url.query = some query → IsEncoded (inQuery true) query
  fragment : ∀ fragment, url.fragment = some fragment → IsEncoded inFragment fragment

/-- Every web address that is read is in its normal form. -/
theorem isWritten_of_parse {text : String} {url : Url} (parsed : parse text = .ok url)
    (web : isWeb url.scheme = true) : ∃ authority names, url.IsWritten authority names := by
  rw [parse] at parsed
  cases schemes : splitScheme (clean text) with
  | error fault =>
      rw [schemes] at parsed
      cases parsed
  | ok parts =>
      obtain ⟨scheme, rest⟩ := parts
      simp only [schemes, bind, Except.bind] at parsed
      generalize cut '#' rest = ends at parsed
      obtain ⟨rest, fragment⟩ := ends
      dsimp only at parsed
      generalize cut '?' rest = ends at parsed
      obtain ⟨rest, query⟩ := ends
      dsimp only at parsed
      cases found : readRest scheme rest with
      | error fault =>
          rw [found] at parsed
          cases parsed
      | ok parts =>
          obtain ⟨authority, path⟩ := parts
          rw [found] at parsed
          cases parsed
          dsimp only at web
          rw [readRest.eq_def, if_pos web] at found
          dsimp only at found
          generalize ((rest.dropWhile (isSlash true)).span fun c => !isSlash true c) = ends at found
          obtain ⟨names, whole, rooted, segments⟩ := segments_of_readPath web ends.2
          cases asked : readAuthority scheme ends.1 with
          | error fault =>
              rw [asked] at found
              cases found
          | ok address =>
              rw [asked] at found
              cases found
              refine ⟨address, names, web, rfl, isWritten_of_readAuthority web asked, whole, rooted,
                segments, fun query given => ?_, fun fragment given => ?_⟩
              · obtain ⟨text, _, rfl⟩ := Option.map_eq_some_iff.mp given
                rw [isRooted_web web]
                exact isEncoded_encode (spares_inQuery true) text
              · obtain ⟨text, _, rfl⟩ := Option.map_eq_some_iff.mp given
                exact isEncoded_encode spares_inFragment text

theorem toList_render {url : Url} {authority : Authority} {names : List String}
    (written : url.IsWritten authority names) :
    url.render.toList = url.scheme.toList ++ ':' :: ('/' :: '/' ::
      ((renderAuthority authority).toList ++ (renderPath url.path).toList) ++
        marked '?' (url.query.map String.toList) ++ marked '#' (url.fragment.map String.toList)) := by
  have unguarded : pathGuard url = "" := by
    rw [pathGuard, written.someone]
  rw [render, unguarded, written.someone]
  cases url.query <;> cases url.fragment <;>
    simp [renderQuery, marked, String.toList_append, List.append_assoc]

/-- A set of characters has all characters that are cut off an address. -/
def TakesUnseen (encoded : Char → Bool) : Prop := ∀ code ≤ 0x20, encoded (Char.ofNat code) = true

theorem TakesUnseen.visible {encoded : Char → Bool} (takes : TakesUnseen encoded) {c : Char}
    (plain : encoded c = false) : 0x20 < c.toNat := by
  refine Nat.lt_of_not_le fun unseen => ?_
  have taken := takes c.toNat unseen
  rw [Char.ofNat_toNat, plain] at taken
  cases taken

theorem takesUnseen_sets : TakesUnseen inUser ∧ TakesUnseen inPath ∧ TakesUnseen (inQuery true) ∧
    TakesUnseen inFragment ∧ TakesUnseen Host.isForbiddenInDomain := by
  unfold TakesUnseen
  decide +kernel

theorem mem_path {names : List String} (segments : ∀ name ∈ names, IsSegment name) {c : Char}
    (member : c ∈ (renderPath (.segments names)).toList) : c = '/' ∨ inPath c = false := by
  rw [toList_renderPath, List.mem_flatMap] at member
  obtain ⟨name, among, member⟩ := member
  obtain rfl | member := List.mem_cons.mp member
  · exact .inl rfl
  · exact .inr ((segments name among).encoded c member)

theorem mem_marked {encoded : Char → Bool} {mark : Char} {part : Option String}
    (done : ∀ text, part = some text → IsEncoded encoded text) {c : Char}
    (member : c ∈ marked mark (part.map String.toList)) : c = mark ∨ encoded c = false := by
  cases part with
  | none => cases member
  | some text =>
      obtain rfl | member := List.mem_cons.mp member
      · exact .inl rfl
      · exact .inr (done text rfl c member)

theorem map_encode {encoded : Char → Bool} {part : Option String}
    (done : ∀ text, part = some text → IsEncoded encoded text) :
    (part.map String.toList).map (encode encoded) = part := by
  cases part with
  | none => rfl
  | some text => exact congrArg some (encode_encoded (done text rfl))

/-- What comes before the path can be told from it. -/
theorem plain_renderAuthority (written : authority.IsWritten scheme) {c : Char}
    (member : c ∈ (renderAuthority authority).toList) :
    0x20 < c.toNat ∧ c ∉ "/\\?#".toList := by
  obtain ⟨unseenUser, _, _, _, unseenHost⟩ := takesUnseen_sets
  obtain special | user | host := mem_renderAuthority written member
  · exact of_all (fun c => 0x20 < c.toNat ∧ c ∉ "/\\?#".toList) (by decide) special
  · refine ⟨unseenUser.visible user, fun special => ?_⟩
    cases user.symm.trans (of_all (inUser · = true) (by decide) special)
  · refine ⟨unseenHost.visible host, fun special => ?_⟩
    cases host.symm.trans (of_all (Host.isForbiddenInDomain · = true) (by decide) special)

theorem readRest_render {url : Url} {authority : Authority} {names : List String}
    (written : url.IsWritten authority names) :
    readRest url.scheme ('/' :: '/' ::
        ((renderAuthority authority).toList ++ (renderPath url.path).toList)) =
      (Host.read authority.host.toList).map fun host =>
        (some { authority with host }, url.path) := by
  have read := readAuthority_render written.web written.authority
  have path := readPath_renderPath written.web written.rooted written.segments
  have noSlash (c : Char) (member : c ∈ (renderAuthority authority).toList) :
      (!isSlash true c) = true := by
    obtain ⟨_, other⟩ := plain_renderAuthority written.authority member
    rw [Bool.not_eq_true', isSlash, Bool.true_and, Bool.or_eq_false_iff, beq_eq_false_iff_ne,
      beq_eq_false_iff_ne]
    exact ⟨fun same => other (same ▸ by decide), fun same => other (same ▸ by decide)⟩
  have rooted (c : Char) (head : c ∈ (renderPath url.path).toList.head?) :
      (!isSlash true c) = false := by
    rw [written.path, toList_renderPath] at head
    cases names with
    | nil => cases head
    | cons name names =>
        cases head
        rfl
  have some : (renderAuthority authority).toList ≠ [] := by
    rw [toList_renderAuthority]
    exact List.append_ne_nil_of_right_ne_nil _
      (List.append_ne_nil_of_left_ne_nil written.authority.host.ne_nil _)
  have slashes : ('/' :: '/' :: ((renderAuthority authority).toList ++
      (renderPath url.path).toList)).dropWhile (isSlash true) =
        (renderAuthority authority).toList ++ (renderPath url.path).toList := by
    rw [List.dropWhile_cons_of_pos rfl, List.dropWhile_cons_of_pos rfl]
    cases letters : (renderAuthority authority).toList with
    | nil => exact absurd letters some
    | cons c rest =>
        have first := noSlash c (letters ▸ List.mem_cons_self)
        rw [List.cons_append, List.dropWhile_cons_of_neg (by simpa using first)]
  rw [readRest.eq_def, if_pos written.web, slashes, Decimal.span_append noSlash _ rooted]
  dsimp only
  rw [read, written.path, path]
  cases Host.read authority.host.toList <;> rfl

/-- A web address in its normal form is read back, as far as its host is. -/
theorem parse_render {url : Url} {authority : Authority} {names : List String}
    (written : url.IsWritten authority names) :
    parse url.render = (Host.read authority.host.toList).map fun host =>
      { url with authority := some { authority with host } } := by
  obtain ⟨_, unseenPath, unseenQuery, unseenFragment, _⟩ := takesUnseen_sets
  have path {c : Char} (member : c ∈ (renderPath url.path).toList) : c = '/' ∨ inPath c = false :=
    mem_path written.segments (written.path ▸ member)
  have query {c : Char} (member : c ∈ marked '?' (url.query.map String.toList)) :
      c = '?' ∨ inQuery true c = false := mem_marked written.query member
  have fragment {c : Char} (member : c ∈ marked '#' (url.fragment.map String.toList)) :
      c = '#' ∨ inFragment c = false := mem_marked written.fragment member
  have render := toList_render written
  have visible (c : Char) (member : c ∈ url.render.toList) : 0x20 < c.toNat := by
    simp only [render, List.mem_append, List.mem_cons] at member
    obtain member | rfl | ((rfl | rfl | member | member) | member) | member := member
    · have schemes : ∀ scheme ∈ ["http", "https", "ws", "wss", "ftp"],
          (scheme.toList.all fun c => decide (0x20 < c.toNat)) = true := by decide
      exact of_all _ (schemes _ (mem_schemes written.web)) member
    · decide
    · decide
    · decide
    · exact (plain_renderAuthority written.authority member).1
    · obtain rfl | plain := path member
      · decide
      · exact unseenPath.visible plain
    · obtain rfl | plain := query member
      · decide
      · exact unseenQuery.visible plain
    · obtain rfl | plain := fragment member
      · decide
      · exact unseenFragment.visible plain
  have noQuery : '?' ∉ '/' :: '/' ::
      ((renderAuthority authority).toList ++ (renderPath url.path).toList) := by
    intro member
    simp only [List.mem_cons, List.mem_append] at member
    obtain same | same | member | member := member
    · cases same
    · cases same
    · exact (plain_renderAuthority written.authority member).2 (by decide)
    · cases (path member).resolve_left (by decide)
  have noFragment : '#' ∉ '/' :: '/' ::
      ((renderAuthority authority).toList ++ (renderPath url.path).toList) ++
        marked '?' (url.query.map String.toList) := by
    intro member
    simp only [List.mem_cons, List.mem_append] at member
    obtain (same | same | member | member) | member := member
    · cases same
    · cases same
    · exact (plain_renderAuthority written.authority member).2 (by decide)
    · cases (path member).resolve_left (by decide)
    · cases (query member).resolve_left (by decide)
  have cleaned := clean_visible visible
  rw [String.ofList_toList, render] at cleaned
  rw [parse, cleaned, splitScheme_web written.web]
  simp only [bind, Except.bind]
  rw [cut_marked noFragment]
  dsimp only
  rw [cut_marked noQuery]
  dsimp only
  rw [readRest_render written, isRooted_web written.web, map_encode written.query,
    map_encode written.fragment]
  cases Host.read authority.host.toList <;> rfl

end Url

end ResourceEditor
