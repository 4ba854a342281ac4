import Mathlib.Control.Monad.Basic
import Mathlib.Data.List.DropRight
import ResourceEditor.Proofs.Controller.Address
import ResourceEditor.Proofs.Controller.Transcript
/-
This file says where a request for a path below a base goes.
-/

namespace ResourceEditor

open Text

namespace Url

/-- The characters that every part of an address takes as they are. -/
def isUnreserved (c : Char) : Bool := c.isAlphanum || "-._~".toList.contains c

/-- The names in a path of a request, with slashes between them and any number of slashes before the
first. -/
structure SpellsNames (path : String) (names : List String) : Prop where
  spelled : ∃ slashes, path.toList =
    List.replicate slashes '/' ++ ['/'].intercalate (names.map String.toList)
  some : names ≠ []
  plain : ∀ name ∈ names, name ≠ "" ∧ name ≠ "." ∧ name ≠ ".." ∧
    name.toList.all isUnreserved = true

/-- A part of an address with names below it. -/
def extended (part : String) (names : List String) : String :=
  String.ofList (dropLastWhile (· == '/') part.toList) ++ renderPath (.segments names)

/-- The address of names below a base. They go to the end of its last part. -/
def below (base : Url) (segments names : List String) : Url :=
  match base.fragment, base.query with
  | some fragment, _ => { base with fragment := some (extended fragment names) }
  | none, some query => { base with query := some (extended query names) }
  | none, none =>
      { base with path := .segments (segments.rdropWhile String.isEmpty ++ names) }

theorem scheme_below (base : Url) (segments names : List String) :
    (base.below segments names).scheme = base.scheme := by
  rw [below]
  split <;> rfl

theorem authority_below (base : Url) (segments names : List String) :
    (base.below segments names).authority = base.authority := by
  rw [below]
  split <;> rfl

/-! Names. -/

theorem unreserved_code {c : Char} (unreserved : isUnreserved c = true) : c.toNat < 128 := by
  rw [isUnreserved, Bool.or_eq_true, List.contains_iff_mem] at unreserved
  obtain letter | sign := unreserved
  · have ranges : ((c.isUpper || c.isLower) || c.isDigit) = true := letter
    rw [Bool.or_eq_true, Bool.or_eq_true] at ranges
    obtain (upper | lower) | digit := ranges
    · have last : c.val ≤ 'Z'.val := (of_decide_eq_true upper).2
      exact Nat.lt_of_le_of_lt (UInt32.le_iff_toNat_le.mp last) (by decide)
    · have last : c.val ≤ 'z'.val := of_decide_eq_true (Bool.and_eq_true_iff.mp lower).2
      exact Nat.lt_of_le_of_lt (UInt32.le_iff_toNat_le.mp last) (by decide)
    · have last : c.val ≤ '9'.val := of_decide_eq_true (Bool.and_eq_true_iff.mp digit).2
      exact Nat.lt_of_le_of_lt (UInt32.le_iff_toNat_le.mp last) (by decide)
  · exact of_all (Char.toNat · < 128) (by decide) sign

theorem plain_unreserved {c : Char} (unreserved : isUnreserved c = true) :
    inPath c = false ∧ isSlash true c = false ∧ inQuery true c = false ∧ inFragment c = false ∧
      c ≠ '%' := by
  have all : ∀ code < 128, isUnreserved (Char.ofNat code) = true →
      inPath (Char.ofNat code) = false ∧ isSlash true (Char.ofNat code) = false ∧
        inQuery true (Char.ofNat code) = false ∧ inFragment (Char.ofNat code) = false ∧
          Char.ofNat code ≠ '%' := by
    decide +kernel
  have plain := all c.toNat (unreserved_code unreserved)
  rw [Char.ofNat_toNat] at plain
  exact plain unreserved

/-- In lower case an unreserved character becomes no other sign. -/
theorem lower_unreserved {c : Char} (unreserved : isUnreserved c = true) :
    (if 'A' ≤ c && c ≤ 'Z' then Char.ofNat (c.toNat + 32) else c) ≠ '%' ∧
      ((if 'A' ≤ c && c ≤ 'Z' then Char.ofNat (c.toNat + 32) else c) = '.' → c = '.') := by
  have all : ∀ code < 128, isUnreserved (Char.ofNat code) = true →
      (if 'A' ≤ Char.ofNat code && Char.ofNat code ≤ 'Z' then
        Char.ofNat ((Char.ofNat code).toNat + 32) else Char.ofNat code) ≠ '%' ∧
      ((if 'A' ≤ Char.ofNat code && Char.ofNat code ≤ 'Z' then
        Char.ofNat ((Char.ofNat code).toNat + 32) else Char.ofNat code) = '.' →
          Char.ofNat code = '.') := by
    decide +kernel
  have lowered := all c.toNat (unreserved_code unreserved)
  rw [Char.ofNat_toNat] at lowered
  exact lowered unreserved

theorem SpellsNames.isSegment {path : String} {names : List String}
    (spells : SpellsNames path names) {name : String} (among : name ∈ names) : IsSegment name := by
  obtain ⟨_, noDot, noDots, plain⟩ := spells.plain name among
  have unreserved := List.all_eq_true.mp plain
  have noPercent {sign : String} (percent : '%' ∈ sign.toList) : asciiLower name ≠ sign := by
    rintro rfl
    rw [asciiLower, String.toList_map, List.mem_map] at percent
    obtain ⟨c, member, same⟩ := percent
    exact (lower_unreserved (unreserved c member)).1 same
  have dots {sign : String} (dots : ∀ c ∈ sign.toList, c = '.') (other : name ≠ sign) :
      asciiLower name ≠ sign := by
    intro same
    have whole := congrArg String.toList same
    rw [asciiLower, String.toList_map] at whole
    refine other (String.toList_inj.mp (Eq.trans ?_ whole))
    refine ((List.map_congr_left fun c member => ?_).trans (List.map_id _)).symm
    have dot := dots _ (whole ▸ List.mem_map_of_mem member)
    rw [dot, (lower_unreserved (unreserved c member)).2 dot]
    rfl
  refine ⟨fun c member => (plain_unreserved (unreserved c member)).1,
    fun c member => (plain_unreserved (unreserved c member)).2.1, ?_, ?_⟩
  · rw [isSingleDot, List.contains_eq_mem, decide_eq_false_iff_not]
    simp only [List.mem_cons, List.not_mem_nil, or_false, not_or]
    exact ⟨dots (fun _ member => of_all (· = '.') (by decide) member) noDot, noPercent (by decide)⟩
  · rw [isDoubleDot, List.contains_eq_mem, decide_eq_false_iff_not]
    simp only [List.mem_cons, List.not_mem_nil, or_false, not_or]
    exact ⟨dots (fun _ member => of_all (· = '.') (by decide) member) noDots,
      noPercent (by decide), noPercent (by decide), noPercent (by decide)⟩

theorem toList_renderPath_append (names others : List String) :
    (renderPath (.segments (names ++ others))).toList =
      (renderPath (.segments names)).toList ++ (renderPath (.segments others)).toList := by
  rw [toList_renderPath, toList_renderPath, toList_renderPath, List.flatMap_append]

theorem toList_renderPath_cons (name : String) (names : List String) :
    (renderPath (.segments (name :: names))).toList =
      '/' :: ['/'].intercalate ((name :: names).map String.toList) := by
  rw [toList_renderPath]
  induction names generalizing name with
  | nil => simp
  | cons next names ih =>
      rw [List.flatMap_cons, ih next]
      simp only [List.map_cons, List.intercalate_cons_cons, List.append_assoc, List.cons_append,
        List.nil_append]

/-- What a request adds to its base. -/
theorem SpellsNames.below {path : String} {names : List String} (spells : SpellsNames path names) :
    '/' :: path.toList.dropWhile (· == '/') = (renderPath (.segments names)).toList := by
  obtain ⟨slashes, spelled⟩ := spells.spelled
  obtain _ | ⟨name, names⟩ := names
  · exact absurd rfl spells.some
  · have slash (c : Char) (member : c ∈ List.replicate slashes '/') : (c == '/') = true :=
      beq_iff_eq.mpr (List.eq_of_mem_replicate member)
    obtain ⟨full, _, _, plain⟩ := spells.plain name List.mem_cons_self
    have unreserved := List.all_eq_true.mp plain
    rw [toList_renderPath_cons, spelled, List.dropWhile_append_of_pos slash]
    cases letters : name.toList with
    | nil => exact absurd (String.toList_eq_nil_iff.mp letters) full
    | cons c rest =>
        have first := (plain_unreserved (unreserved c (letters ▸ List.mem_cons_self))).2.1
        have other : (c == '/') = false := (Bool.or_eq_false_iff.mp first).1
        obtain _ | ⟨next, names⟩ := names
        · rw [List.map_singleton, List.intercalate_singleton, letters,
            List.dropWhile_cons_of_neg (by simp [other])]
        · rw [List.map_cons, List.map_cons, List.intercalate_cons_cons, letters, List.cons_append,
            List.cons_append, List.dropWhile_cons_of_neg (by simp [other])]

/-! Ends. -/

/-- Slashes are not dropped beyond another character. -/
theorem dropSlashes_append {c : Char} (other : c ≠ '/') (before after : List Char) :
    dropLastWhile (· == '/') (before ++ c :: after) =
      before ++ c :: dropLastWhile (· == '/') after := by
  have turned : (before ++ c :: after).reverse = after.reverse ++ c :: before.reverse := by
    rw [List.reverse_append, List.reverse_cons, List.append_assoc]
    rfl
  have stops : (c :: before.reverse).dropWhile (· == '/') = c :: before.reverse :=
    List.dropWhile_cons_of_neg (by simpa using other)
  rw [dropLastWhile, dropLastWhile, turned, List.dropWhile_append, stops]
  split
  next all =>
    rw [List.isEmpty_iff.mp all, List.reverse_cons, List.reverse_reverse]
    rfl
  next =>
    rw [List.reverse_append, List.reverse_cons, List.reverse_reverse, List.append_assoc]
    rfl

theorem dropSlashes_path {segments : List String} (whole : ∀ name ∈ segments, '/' ∉ name.toList) :
    dropLastWhile (· == '/') (renderPath (.segments segments)).toList =
      (renderPath (.segments (segments.rdropWhile String.isEmpty))).toList := by
  induction segments using List.reverseRecOn with
  | nil => rfl
  | append_singleton segments name ih =>
      obtain ⟨before, last⟩ := List.forall_mem_append.mp whole
      rw [List.rdropWhile_concat, toList_renderPath_append]
      split
      next none =>
        rw [String.isEmpty_iff.mp none, ← ih before]
        exact List.rdropWhile_concat_pos _ _ _ rfl
      next full =>
        obtain nothing | ⟨start, c, letters⟩ := List.eq_nil_or_concat name.toList
        · exact absurd (String.isEmpty_iff.mpr (String.toList_eq_nil_iff.mp nothing)) full
        · have other : c ≠ '/' := by
            rintro rfl
            exact last name List.mem_cons_self (by simp [letters])
          rw [toList_renderPath_append, toList_renderPath [name], List.flatMap_singleton, letters,
            List.concat_eq_append, ← List.cons_append, ← List.append_assoc,
            dropSlashes_append other]
          rfl

theorem toList_extended (part : String) (names : List String) :
    (extended part names).toList =
      dropLastWhile (· == '/') part.toList ++ (renderPath (.segments names)).toList := by
  rw [extended, String.toList_append, String.toList_ofList]

variable {base : Url} {authority : Authority} {segments names : List String} {path : String}

theorem SpellsNames.mem (spells : SpellsNames path names) {c : Char}
    (member : c ∈ (renderPath (.segments names)).toList) : c = '/' ∨ isUnreserved c = true := by
  rw [toList_renderPath, List.mem_flatMap] at member
  obtain ⟨name, among, member⟩ := member
  obtain rfl | member := List.mem_cons.mp member
  · exact .inl rfl
  · exact .inr ((List.all_eq_true.mp (spells.plain name among).2.2.2 c member))

theorem SpellsNames.isEncoded_extended (spells : SpellsNames path names) {encoded : Char → Bool}
    {part : String} (done : IsEncoded encoded part) (slash : encoded '/' = false)
    (plain : ∀ c, isUnreserved c = true → encoded c = false) :
    IsEncoded encoded (extended part names) := by
  intro c member
  rw [toList_extended, List.mem_append] at member
  obtain member | member := member
  · exact done c ((List.rdropWhile_prefix _ _).subset member)
  · obtain rfl | unreserved := spells.mem member
    · exact slash
    · exact plain c unreserved

/-- What is below a web address is one, too. -/
theorem IsWritten.below (written : base.IsWritten authority segments)
    (spells : SpellsNames path names) :
    ∃ others, (base.below segments names).IsWritten authority others := by
  obtain ⟨scheme, someone, path, query, fragment⟩ := base
  obtain ⟨web, known, host, whole, rooted, all, asks, ends⟩ := written
  have longer (text : String) (done : IsEncoded (inQuery true) text) :
      IsEncoded (inQuery true) (extended text names) :=
    spells.isEncoded_extended done (by decide) fun c plain => (plain_unreserved plain).2.2.1
  have longest (text : String) (done : IsEncoded inFragment text) :
      IsEncoded inFragment (extended text names) :=
    spells.isEncoded_extended done (by decide) fun c plain => (plain_unreserved plain).2.2.2.1
  cases fragment with
  | some text =>
      refine ⟨segments, web, known, host, whole, rooted, all, asks, ?_⟩
      rintro _ ⟨⟩
      exact longest text (ends text rfl)
  | none =>
      cases query with
      | some text =>
          refine ⟨segments, web, known, host, whole, rooted, all, ?_, nofun⟩
          rintro _ ⟨⟩
          exact longer text (asks text rfl)
      | none =>
          refine ⟨_, web, known, host, rfl, ?_, ?_, nofun, nofun⟩
          · exact List.append_ne_nil_of_right_ne_nil _ spells.some
          · refine List.forall_mem_append.mpr ⟨fun name among => ?_, fun name => spells.isSegment⟩
            exact all name ((List.rdropWhile_prefix _ _).subset among)

/-- The text that a client makes is the address of the names below its base. -/
theorem render_below (written : base.IsWritten authority segments)
    (spells : SpellsNames path names) :
    String.ofList (dropLastWhile (· == '/') base.render.toList ++
      '/' :: path.toList.dropWhile (· == '/')) = (base.below segments names).render := by
  obtain ⟨others, below⟩ := written.below spells
  have after := toList_render below
  have before := toList_render written
  have noSlash : ∀ name ∈ segments, '/' ∉ name.toList := fun name among slash => by
    cases (written.segments name among).whole '/' slash
  obtain ⟨start, last, other, address⟩ : ∃ start c, c ≠ '/' ∧
      (renderAuthority authority).toList = start ++ [c] := by
    obtain nothing | ⟨start, c, letters⟩ := List.eq_nil_or_concat (renderAuthority authority).toList
    · rw [toList_renderAuthority, List.append_eq_nil_iff, List.append_eq_nil_iff] at nothing
      exact absurd nothing.2.1 written.authority.host.ne_nil
    · rw [List.concat_eq_append] at letters
      refine ⟨start, c, ?_, letters⟩
      rintro rfl
      exact (plain_renderAuthority written.authority (c := '/') (by simp [letters])).2 (by decide)
  have path := written.path
  obtain ⟨scheme, someone, whole, query, fragment⟩ := base
  rw [← String.toList_inj, String.toList_ofList, spells.below, after, before]
  cases fragment with
  | some text =>
      have regroup : scheme.toList ++ ':' :: ('/' :: '/' ::
          ((renderAuthority authority).toList ++ (renderPath whole).toList) ++
            marked '?' (query.map String.toList) ++ '#' :: text.toList) =
          (scheme.toList ++ ':' :: ('/' :: '/' ::
            ((renderAuthority authority).toList ++ (renderPath whole).toList) ++
              marked '?' (query.map String.toList))) ++ '#' :: text.toList := by
        simp only [List.append_assoc, List.cons_append]
      simp only [Url.below, marked_some, Option.map_some, toList_extended]
      rw [regroup, dropSlashes_append (by decide)]
      simp only [List.append_assoc, List.cons_append]
  | none =>
      cases query with
      | some text =>
          have regroup : scheme.toList ++ ':' :: ('/' :: '/' ::
              ((renderAuthority authority).toList ++ (renderPath whole).toList) ++
                '?' :: text.toList) = (scheme.toList ++ ':' :: ('/' :: '/' ::
              ((renderAuthority authority).toList ++ (renderPath whole).toList))) ++
                '?' :: text.toList := by
            simp only [List.append_assoc, List.cons_append]
          simp only [Url.below, marked_some, marked_none, Option.map_some, Option.map_none,
            toList_extended, List.append_nil]
          rw [regroup, dropSlashes_append (by decide)]
          simp only [List.append_assoc, List.cons_append]
      | none =>
          dsimp only at path
          subst path
          have regroup : scheme.toList ++ ':' :: ('/' :: '/' ::
              (start ++ [last] ++ (renderPath (.segments segments)).toList)) =
                (scheme.toList ++ ':' :: '/' :: '/' :: start) ++
                  last :: (renderPath (.segments segments)).toList := by
            simp only [List.append_assoc, List.cons_append, List.nil_append]
          simp only [Url.below, marked_none, Option.map_none, List.append_nil, address]
          rw [regroup, dropSlashes_append other, dropSlashes_path noSlash,
            toList_renderPath_append]
          simp only [List.append_assoc, List.cons_append, List.nil_append]

/-- A join goes below the base, as far as the base's host is read back. -/
theorem join_written (written : base.IsWritten authority segments)
    (spells : SpellsNames path names) :
    base.join path = (Host.read authority.host.toList).map fun host =>
      { base.below segments names with authority := some { authority with host } } := by
  obtain ⟨others, below⟩ := written.below spells
  rw [join, render_below written spells, parse_render below]

/-- An address keeps the base of a request: it has the scheme, the host and the port of the base,
and its path is that of the base without slashes at the end, a slash, and the path of the request
without slashes at the start. -/
structure KeepsBase (base : Url) (path : String) (url : Url) : Prop where
  scheme : url.scheme = base.scheme
  host : url.authority.map Authority.host = base.authority.map Authority.host
  port : url.authority.map Authority.port = base.authority.map Authority.port
  path : (renderPath url.path).toList =
    dropLastWhile (· == '/') (renderPath base.path).toList ++
      '/' :: path.toList.dropWhile (· == '/')

/-- The names go to the end of the path just if the base has nothing after its path. -/
theorem IsWritten.below_path_iff (written : base.IsWritten authority segments)
    (spells : SpellsNames path names) :
    (renderPath (base.below segments names).path).toList =
        dropLastWhile (· == '/') (renderPath base.path).toList ++
          '/' :: path.toList.dropWhile (· == '/') ↔
      base.query = none ∧ base.fragment = none := by
  have noSlash : ∀ name ∈ segments, '/' ∉ name.toList := fun name among slash => by
    cases (written.segments name among).whole '/' slash
  obtain ⟨name, among, c, member, unreserved⟩ : ∃ name ∈ names, ∃ c ∈ name.toList,
      isUnreserved c = true := by
    obtain ⟨name, among⟩ := List.exists_mem_of_ne_nil names spells.some
    obtain ⟨full, _, _, plain⟩ := spells.plain name among
    have unreserved := List.all_eq_true.mp plain
    obtain ⟨c, member⟩ := List.exists_mem_of_ne_nil name.toList
      fun none => full (String.toList_eq_nil_iff.mp none)
    exact ⟨name, among, c, member, unreserved c member⟩
  -- Only slashes are dropped, so the names do not fit where they were.
  have kept (same : (renderPath base.path).toList =
      dropLastWhile (· == '/') (renderPath base.path).toList ++ '/' :: path.toList.dropWhile
        (· == '/')) : False := by
    have dropped := List.rdropWhile_append_rtakeWhile (p := (· == '/'))
      (l := (renderPath base.path).toList)
    have names := List.append_cancel_left (dropped.trans same)
    have inside : c ∈ (renderPath base.path).toList.rtakeWhile (· == '/') := by
      rw [names, spells.below, toList_renderPath, List.mem_flatMap]
      exact ⟨name, among, List.mem_cons_of_mem _ member⟩
    obtain rfl : c = '/' := beq_iff_eq.mp (List.mem_rtakeWhile_imp (p := (· == '/')) inside)
    cases unreserved
  have whole := written.path
  obtain ⟨scheme, someone, before, query, fragment⟩ := base
  cases fragment with
  | some fragment => exact ⟨fun same => (kept same).elim, nofun⟩
  | none =>
      cases query with
      | some query => exact ⟨fun same => (kept same).elim, nofun⟩
      | none =>
          dsimp only at whole
          subst whole
          refine iff_of_true ?_ ⟨rfl, rfl⟩
          rw [spells.below, dropSlashes_path noSlash, ← toList_renderPath_append]
          rfl

end Url

namespace Client

variable {client : Client} {text path : String} {names : List String}

/-- A request of unreserved names keeps the base of its client just if the base has nothing after
its path and its host can be read again. With such a host it always goes below the base. -/
theorem request_keeps_base_iff (parsed : Url.parse text = .ok client.base)
    (web : client.base.scheme = "http" ∨ client.base.scheme = "https")
    (fits : ∀ token, client.token = some token → isHeaderText token = true)
    (spells : Url.SpellsNames path names) (method : Method) (body : Option Json) :
    ∃ authority segments, client.base.IsWritten authority segments ∧
      (Domain.IsReadable authority.host.toList →
        ∃ request, client.request method path body = .ok request ∧
          request.url = client.base.below segments names) ∧
      ((∃ request, client.request method path body = .ok request ∧
          client.base.KeepsBase path request.url) ↔
        Domain.IsReadable authority.host.toList ∧ client.base.query = none ∧
          client.base.fragment = none) := by
  have known : Url.isWeb client.base.scheme = true := by
    obtain http | https := web
    · rw [http]
      rfl
    · rw [https]
      rfl
  obtain ⟨authority, segments, written⟩ := Url.isWritten_of_parse parsed known
  obtain ⟨_, read⟩ := written.authority.known
  have again := Host.read_again_iff read
  have joined := Url.join_written written spells
  have scheme := client.base.scheme_below segments names
  have someone := (client.base.authority_below segments names).trans written.someone
  have inWeb : ["http", "https"].contains (client.base.below segments names).scheme = true := by
    rw [scheme]
    obtain http | https := web
    · rw [http]
      decide
    · rw [https]
      decide
  have stays (readable : Domain.IsReadable authority.host.toList) :
      client.base.join path = .ok (client.base.below segments names) := by
    rw [joined, again.mpr readable]
    generalize client.base.below segments names = url at someone
    obtain ⟨scheme, address, way, query, fragment⟩ := url
    cases someone
    rfl
  have reaches (readable : Domain.IsReadable authority.host.toList) :
      ∃ request, client.request method path body = .ok request ∧
        request.url = client.base.below segments names :=
    ⟨_, request_eq_ok_iff.mpr ⟨_, stays readable, inWeb, fits, rfl⟩, rfl⟩
  refine ⟨authority, segments, written, reaches, ?_, ?_⟩
  · rintro ⟨request, made, keeps⟩
    obtain ⟨url, found, _, _, rfl⟩ := request_eq_ok_iff.mp made
    rw [joined] at found
    cases host : Host.read authority.host.toList with
    | error fault =>
        rw [host] at found
        cases found
    | ok name =>
        rw [host] at found
        cases found
        have same := keeps.host
        rw [written.someone] at same
        cases same
        exact ⟨again.mp host, (written.below_path_iff spells).mp keeps.path⟩
  · rintro ⟨readable, nothing⟩
    obtain ⟨request, made, url⟩ := reaches readable
    refine ⟨request, made, url ▸ ⟨scheme, ?_, ?_, (written.below_path_iff spells).mpr nothing⟩⟩
    · rw [someone, written.someone]
    · rw [someone, written.someone]

section Lab

/-- A client in a lab whose controller is below a name. -/
def labClient (fragment : Option String) : Client where
  base := ⟨"http", some ⟨"", "", "[::1]", none⟩, .segments ["api", ""], none, fragment⟩
  token := none

theorem spells_apps : Url.SpellsNames "/apps/a1" ["apps", "a1"] where
  spelled := ⟨1, by decide⟩
  some := List.cons_ne_nil _ _
  plain := by decide

/-- Its requests stay below that name. -/
theorem labClient_keeps_base :
    Url.parse "http://[::1]/api/" = .ok (labClient none).base ∧
      ∃ request, (labClient none).request .get "/apps/a1" none = .ok request ∧
        (labClient none).base.KeepsBase "/apps/a1" request.url := by
  have parsed : Url.parse "http://[::1]/api/" = .ok (labClient none).base := by decide +kernel
  obtain ⟨authority, segments, written, _, keeps⟩ :=
    request_keeps_base_iff parsed (.inl rfl) nofun spells_apps .get none
  have host : authority = ⟨"", "", "[::1]", none⟩ := by
    cases written.someone
    rfl
  subst host
  exact ⟨parsed, keeps.mpr ⟨by unfold Domain.IsReadable; decide +kernel, rfl, rfl⟩⟩

/-- With a mark after that name, all requests go there. -/
theorem labClient_leaves_base :
    Url.parse "http://[::1]/api/#x" = .ok (labClient (some "x")).base ∧
      ∃ url, (labClient (some "x")).base.join "/apps/a1" = .ok url ∧
        Url.renderPath url.path = "/api/" ∧ url.fragment = some "x/apps/a1" ∧
        ¬(labClient (some "x")).base.KeepsBase "/apps/a1" url := by
  refine ⟨by decide +kernel,
    ⟨"http", some ⟨"", "", "[::1]", none⟩, .segments ["api", ""], none, some "x/apps/a1"⟩,
    by decide +kernel, by decide +kernel, rfl, fun keeps => ?_⟩
  have path := keeps.path
  revert path
  decide +kernel

end Lab

end Client

end ResourceEditor
