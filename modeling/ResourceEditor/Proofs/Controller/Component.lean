import ResourceEditor.Controller.Url
import ResourceEditor.Proofs.Controller.Hosts
import ResourceEditor.Proofs.Decimal.Spelling
/-
This file says how the parts of a web address are written, and that a part that was read and written
is read back as it is.
-/

namespace ResourceEditor

open Text

namespace Url

/-! Percent signs. -/

/-- The text has no character that is to be encoded. -/
def IsEncoded (encoded : Char → Bool) (text : String) : Prop :=
  ∀ c ∈ text.toList, encoded c = false

/-- A set of characters leaves alone what encoded characters are written with. -/
def SparesEncoding (encoded : Char → Bool) : Prop :=
  ("%0123456789ABCDEF".toList.all fun c => decide (encoded c = false)) = true

theorem encode_encoded {encoded : Char → Bool} {text : String} (done : IsEncoded encoded text) :
    encode encoded text.toList = text := by
  have same (chars : List Char) (done : ∀ c ∈ chars, encoded c = false) :
      percentEncode encoded chars = chars := by
    induction chars with
    | nil => rfl
    | cons c chars ih =>
        rw [percentEncode, List.flatMap_cons, done c List.mem_cons_self]
        exact congrArg (c :: ·) (ih fun d member => done d (List.mem_cons_of_mem c member))
  rw [encode, same _ done, String.ofList_toList]

theorem mem_percentChar {c d : Char} (member : d ∈ percentChar c) :
    d ∈ "%0123456789ABCDEF".toList := by
  have digit : ∀ n < 16, upperHexDigit n ∈ "%0123456789ABCDEF".toList := by decide
  rw [percentChar, List.mem_flatMap] at member
  obtain ⟨byte, _, member⟩ := member
  have small := byte.toNat_lt
  rw [percentByte, List.mem_cons, List.mem_cons, List.mem_singleton] at member
  obtain rfl | rfl | rfl := member
  · decide
  · exact digit _ (by omega)
  · exact digit _ (by omega)

theorem mem_encode {encoded : Char → Bool} {text : List Char} {d : Char}
    (member : d ∈ (encode encoded text).toList) :
    (d ∈ text ∧ encoded d = false) ∨ d ∈ "%0123456789ABCDEF".toList := by
  rw [encode, String.toList_ofList, percentEncode, List.mem_flatMap] at member
  obtain ⟨c, among, member⟩ := member
  cases taken : encoded c with
  | true =>
      rw [taken, if_pos rfl] at member
      exact .inr (mem_percentChar member)
  | false =>
      rw [taken, if_neg Bool.false_ne_true, List.mem_singleton] at member
      exact .inl (member ▸ ⟨among, taken⟩)

theorem isEncoded_encode {encoded : Char → Bool} (spares : SparesEncoding encoded)
    (text : List Char) : IsEncoded encoded (encode encoded text) := fun _ member =>
  (mem_encode member).elim And.right (of_all _ spares)

theorem spares_inUser : SparesEncoding inUser := by unfold SparesEncoding; decide

theorem spares_inPath : SparesEncoding inPath := by unfold SparesEncoding; decide

theorem spares_inQuery (rooted : Bool) : SparesEncoding (inQuery rooted) := by
  unfold SparesEncoding
  cases rooted <;> decide

theorem spares_inFragment : SparesEncoding inFragment := by unfold SparesEncoding; decide

theorem spares_isSlash : SparesEncoding (isSlash true) := by unfold SparesEncoding; decide

/-! Marks. -/

/-- The text after a mark, with the mark, if there is any. -/
def marked (mark : Char) : Option (List Char) → List Char
  | none => []
  | some text => mark :: text

theorem marked_none (mark : Char) : marked mark none = [] := rfl

theorem marked_some (mark : Char) (text : List Char) : marked mark (some text) = mark :: text := rfl

theorem cut_marked {mark : Char} {before : List Char} (absent : mark ∉ before)
    (after : Option (List Char)) : cut mark (before ++ marked mark after) = (before, after) := by
  have inside (c : Char) (member : c ∈ before) : (c != mark) = true :=
    bne_iff_ne.mpr fun same => absent (same ▸ member)
  have ends (c : Char) (head : c ∈ (marked mark after).head?) : (c != mark) = false := by
    cases after with
    | none => cases head
    | some after =>
        cases head
        exact bne_self_eq_false mark
  rw [cut, Decimal.span_append inside _ ends]
  cases after <;> rfl

/-! Paths of the web. -/

theorem splitSlashes_cons (web : Bool) (c : Char) (rest : List Char) :
    splitSlashes web (c :: rest) =
      if isSlash web c then [] :: splitSlashes web rest
      else (c :: (splitSlashes web rest).headD []) :: (splitSlashes web rest).tail := by
  rw [splitSlashes]
  cases splitSlashes web rest <;> rfl

theorem mem_splitSlashes {web : Bool} {text part : List Char}
    (member : part ∈ splitSlashes web text) : ∀ c ∈ part, isSlash web c = false := by
  induction text generalizing part with
  | nil =>
      cases List.mem_singleton.mp member
      exact List.forall_mem_nil _
  | cons c text ih =>
      rw [splitSlashes_cons] at member
      split at member
      next slash =>
        obtain rfl | member := List.mem_cons.mp member
        · exact List.forall_mem_nil _
        · exact ih member
      next inside =>
        obtain rfl | member := List.mem_cons.mp member
        · refine List.forall_mem_cons.mpr ⟨eq_false_of_ne_true inside, fun d among => ?_⟩
          cases parts : splitSlashes web text with
          | nil =>
              rw [parts] at among
              cases among
          | cons first others =>
              rw [parts] at among ih
              exact ih List.mem_cons_self d among
        · exact ih (List.mem_of_mem_tail member)

/-- The first part ends at the first slash. -/
theorem splitSlashes_append {web : Bool} {first : List Char}
    (whole : ∀ c ∈ first, isSlash web c = false) (rest : List Char) :
    splitSlashes web (first ++ '/' :: rest) = first :: splitSlashes web rest := by
  induction first with
  | nil => rfl
  | cons c first ih =>
      obtain ⟨inside, whole⟩ := List.forall_mem_cons.mp whole
      rw [List.cons_append, splitSlashes_cons, if_neg (by simp [inside]), ih whole]
      rfl

theorem splitSlashes_whole {web : Bool} {text : List Char}
    (whole : ∀ c ∈ text, isSlash web c = false) : splitSlashes web text = [text] := by
  induction text with
  | nil => rfl
  | cons c text ih =>
      obtain ⟨inside, whole⟩ := List.forall_mem_cons.mp whole
      rw [splitSlashes_cons, if_neg (by simp [inside]), ih whole]
      rfl

/-- A name in the path of a web address in its normal form. -/
structure IsSegment (name : String) : Prop where
  encoded : IsEncoded inPath name
  whole : ∀ c ∈ name.toList, isSlash true c = false
  notSingle : isSingleDot name = false
  notDouble : isDoubleDot name = false

theorem isSegment_empty : IsSegment "" :=
  ⟨List.forall_mem_nil _, List.forall_mem_nil _, by decide +kernel, by decide +kernel⟩

theorem toList_renderPath (names : List String) :
    (renderPath (.segments names)).toList = names.flatMap fun name => '/' :: name.toList := by
  have append (start : String) :
      (names.foldl (fun text name => text ++ ("/" ++ name)) start).toList =
        start.toList ++ names.flatMap fun name => '/' :: name.toList := by
    induction names generalizing start with
    | nil => exact (List.append_nil _).symm
    | cons name names ih =>
        rw [List.foldl_cons, ih, String.toList_append, String.toList_append, List.flatMap_cons,
          List.append_assoc]
        rfl
  rw [renderPath, String.join, List.foldl_map, append]
  rfl

theorem splitSlashes_renderPath {name : String} {names : List String}
    (segments : ∀ other ∈ name :: names, IsSegment other) :
    splitSlashes true (name.toList ++ (renderPath (.segments names)).toList) =
      (name :: names).map String.toList := by
  induction names generalizing name with
  | nil =>
      rw [toList_renderPath, List.flatMap_nil, List.append_nil]
      exact splitSlashes_whole (segments name List.mem_cons_self).whole
  | cons next names ih =>
      obtain ⟨first, segments⟩ := List.forall_mem_cons.mp segments
      have rest := ih segments
      rw [toList_renderPath] at rest
      rw [toList_renderPath, List.flatMap_cons, List.cons_append,
        splitSlashes_append first.whole, rest]
      rfl

theorem goUp_web (before : List String) : goUp false before = before.tail := by
  obtain _ | ⟨_, _ | ⟨_, _⟩⟩ := before <;> rfl

theorem addSegment_web (before : List String) (name : String) :
    addSegment false before name = name :: before := rfl

/-- Without dots nothing is left to resolve. -/
theorem resolveDots_segments {before names : List String}
    (segments : ∀ name ∈ names, IsSegment name) :
    resolveDots false before names = before.reverse ++ names := by
  induction names generalizing before with
  | nil => rw [resolveDots, List.append_nil]
  | cons name names ih =>
      obtain ⟨first, segments⟩ := List.forall_mem_cons.mp segments
      cases names with
      | nil =>
          rw [resolveDots, first.notDouble, first.notSingle, if_neg Bool.false_ne_true,
            if_neg Bool.false_ne_true, addSegment_web, List.reverse_cons]
      | cons next names =>
          rw [resolveDots, first.notDouble, first.notSingle, if_neg Bool.false_ne_true,
            if_neg Bool.false_ne_true, addSegment_web, ih segments, List.reverse_cons,
            List.append_assoc]
          · rfl
          · exact nofun

/-- Only names that are no dots are taken over, so those before the rest are segments all along. -/
theorem mem_resolveDots {files : Bool} (web : files = false) {before names : List String}
    (segments : ∀ name ∈ before, IsSegment name)
    (encoded : ∀ name ∈ names, IsEncoded inPath name ∧ ∀ c ∈ name.toList, isSlash true c = false) :
    ∀ name ∈ resolveDots files before names, IsSegment name := by
  have turned {before : List String} (segments : ∀ name ∈ before, IsSegment name) :
      ∀ name ∈ before.reverse, IsSegment name :=
    fun name member => segments name (List.mem_reverse.mp member)
  have raised {before : List String} (segments : ∀ name ∈ before, IsSegment name) :
      ∀ name ∈ goUp files before, IsSegment name := by
    rw [web, goUp_web]
    exact fun name member => segments name (List.mem_of_mem_tail member)
  have added {before : List String} {last : String} (segments : ∀ name ∈ before, IsSegment name)
      (encoded : IsEncoded inPath last ∧ ∀ c ∈ last.toList, isSlash true c = false)
      (notDouble : ¬isDoubleDot last = true) (notSingle : ¬isSingleDot last = true) :
      ∀ name ∈ addSegment files before last, IsSegment name := by
    rw [web, addSegment_web]
    exact List.forall_mem_cons.mpr ⟨⟨encoded.1, encoded.2, eq_false_of_ne_true notSingle,
      eq_false_of_ne_true notDouble⟩, segments⟩
  have ended {before : List String} (segments : ∀ name ∈ before, IsSegment name) :
      ∀ name ∈ "" :: before, IsSegment name :=
    List.forall_mem_cons.mpr ⟨isSegment_empty, segments⟩
  fun_induction resolveDots files before names
  case case1 before => exact turned segments
  case case2 before last double => exact turned (ended (raised segments))
  case case3 before last _ single => exact turned (ended segments)
  case case4 before last double single =>
    exact turned (added segments (encoded last List.mem_cons_self) double single)
  case case5 before name rest _ double ih =>
    exact ih (raised segments) (List.forall_mem_cons.mp encoded).2
  case case6 before name rest _ _ single ih =>
    exact ih segments (List.forall_mem_cons.mp encoded).2
  case case7 before name rest _ double single ih =>
    exact ih (added segments (encoded name List.mem_cons_self) double single)
      (List.forall_mem_cons.mp encoded).2

/-- A path that has a part has a segment. -/
theorem resolveDots_ne_nil (before : List String) {names : List String} (some : names ≠ []) :
    resolveDots false before names ≠ [] := by
  have turned (name : String) (before : List String) : (name :: before).reverse ≠ [] := by
    rw [Ne, List.reverse_eq_nil_iff]
    exact List.cons_ne_nil name before
  generalize web : false = files
  fun_induction resolveDots files before names
  case case1 => exact absurd rfl some
  case case2 => exact turned _ _
  case case3 => exact turned _ _
  case case4 before last _ _ =>
    subst web
    exact turned last before
  case case5 rest left _ ih => exact ih left
  case case6 rest left _ _ ih => exact ih left
  case case7 rest left _ _ ih => exact ih left

theorem isRooted_web {scheme : String} (web : isWeb scheme = true) : isRooted scheme = true := by
  rw [isRooted, web, Bool.true_or]

theorem not_file_web {scheme : String} (web : isWeb scheme = true) :
    (scheme == "file") = false := by
  refine beq_eq_false_iff_ne.mpr ?_
  rintro rfl
  cases (by decide : isWeb "file" = false).symm.trans web

/-- A path that is written is read back. -/
theorem readPath_renderPath {scheme : String} (web : isWeb scheme = true) {names : List String}
    (some : names ≠ []) (segments : ∀ name ∈ names, IsSegment name) :
    readPath scheme (renderPath (.segments names)).toList = .segments names := by
  obtain _ | ⟨name, names⟩ := names
  · exact absurd rfl some
  · have parts := splitSlashes_renderPath segments
    have encoded : (name :: names).map (encode inPath ∘ String.toList) = name :: names := by
      rw [← List.map_id (name :: names), List.map_map]
      exact List.map_congr_left fun other member => encode_encoded (segments other member).encoded
    rw [toList_renderPath] at parts
    rw [toList_renderPath, List.flatMap_cons, List.cons_append, readPath, not_file_web web,
      isRooted_web web, parts, List.map_map, encoded, resolveDots_segments segments]
    rfl

theorem segments_of_readPath {scheme : String} (web : isWeb scheme = true) (text : List Char) :
    ∃ names, readPath scheme text = .segments names ∧ names ≠ [] ∧
      ∀ name ∈ names, IsSegment name := by
  obtain _ | ⟨_, rest⟩ := text
  · refine ⟨[""], ?_, List.cons_ne_nil _ _, List.forall_mem_singleton.mpr isSegment_empty⟩
    rw [readPath, isRooted_web web]
    rfl
  · refine ⟨_, by rw [readPath, not_file_web web, isRooted_web web], ?_, ?_⟩
    · refine resolveDots_ne_nil [] ?_
      rw [Ne, List.map_eq_nil_iff]
      obtain _ | ⟨c, rest⟩ := rest
      · exact List.cons_ne_nil _ _
      · rw [splitSlashes_cons]
        split <;> exact List.cons_ne_nil _ _
    · refine mem_resolveDots rfl (List.forall_mem_nil _) fun name member => ?_
      obtain ⟨part, among, rfl⟩ := List.mem_map.mp member
      refine ⟨isEncoded_encode spares_inPath part, fun c member => ?_⟩
      obtain ⟨member, _⟩ | member := mem_encode member
      · exact mem_splitSlashes among c member
      · exact of_all _ spares_isSlash member

end Url

end ResourceEditor
