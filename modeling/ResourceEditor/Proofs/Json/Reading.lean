import ResourceEditor.Controller.Exchange
import ResourceEditor.Proofs.Value.Distinct
/-
This file follows documents from the text to what is read of it. No object of a document that is
read has two members of one name, and so none of the documents that a controller answers with.
-/

namespace ResourceEditor

namespace Json

theorem areDistinct_iff (members : List (String × Json)) :
    areDistinct members = true ↔ ∀ pair ∈ members, pair.2.isDistinct = true := by
  induction members with
  | nil => simp [areDistinct]
  | cons pair rest ih => simp [areDistinct, ih]

theorem isDistinct_object (members : List (String × Json)) :
    (object members).isDistinct = true ↔
      (Members.names members).Nodup ∧ ∀ pair ∈ members, pair.2.isDistinct = true := by
  rw [isDistinct, Bool.and_eq_true, decide_eq_true_iff, areDistinct_iff]

theorem isDistinct_array (elements : List Json) :
    (array elements).isDistinct = true ↔ ∀ element ∈ elements, element.isDistinct = true := by
  rw [isDistinct]
  induction elements with
  | nil => simp [elementsDistinct]
  | cons element rest ih => simp [elementsDistinct, ih]

theorem isDistinct_of_step? {json below : Json} {segment : Segment}
    (distinct : json.isDistinct = true) (there : json.step? segment = some below) :
    below.isDistinct = true := by
  cases json with
  | object members =>
      cases segment with
      | field name =>
          exact ((isDistinct_object members).mp distinct).2 _ (Members.mem_of_get? there)
      | index position => cases there
  | array elements =>
      cases segment with
      | field name => cases there
      | index position =>
          exact (isDistinct_array elements).mp distinct below (List.mem_of_getElem? there)
  | _ => cases there

mutual

theorem isDistinct_of_read? (tree : Tree) (depth : Nat) (document : Json)
    (read : tree.read? depth = some document) : document.isDistinct = true := by
  cases tree with
  | array elements =>
      rw [Tree.read?] at read
      split at read
      next => cases read
      next =>
        obtain ⟨values, inside, rfl⟩ := Option.map_eq_some_iff.mp read
        exact (isDistinct_array values).mpr (isDistinct_of_readElements? elements _ values inside)
  | object members =>
      rw [Tree.read?] at read
      split at read
      next => cases read
      next =>
        obtain ⟨pairs, inside, rfl⟩ := Option.map_eq_some_iff.mp read
        refine (isDistinct_object _).mpr ⟨Members.nodup_names_collect pairs, fun pair kept => ?_⟩
        have among := Members.mem_of_mem_collect kept
        exact isDistinct_of_readMembers? members _ pairs inside pair among
  | number written =>
      obtain ⟨number, _, rfl⟩ := Option.map_eq_some_iff.mp read
      rfl
  | text letters =>
      obtain ⟨text, _, rfl⟩ := Option.map_eq_some_iff.mp read
      rfl
  | _ =>
      cases read
      rfl

theorem isDistinct_of_readElements? (elements : List Tree) (depth : Nat) (values : List Json)
    (read : readElements? elements depth = some values) :
    ∀ value ∈ values, value.isDistinct = true := by
  cases elements with
  | nil =>
      cases read
      exact List.forall_mem_nil _
  | cons element rest =>
      rw [readElements?] at read
      obtain ⟨first, here, later⟩ := Option.bind_eq_some_iff.mp read
      obtain ⟨others, there, rfl⟩ := Option.map_eq_some_iff.mp later
      exact List.forall_mem_cons.mpr ⟨isDistinct_of_read? element depth first here,
        isDistinct_of_readElements? rest depth others there⟩

theorem isDistinct_of_readMembers? (members : List (List Letter × Tree)) (depth : Nat)
    (pairs : List (String × Json)) (read : readMembers? members depth = some pairs) :
    ∀ pair ∈ pairs, pair.2.isDistinct = true := by
  cases members with
  | nil =>
      cases read
      exact List.forall_mem_nil _
  | cons member rest =>
      rw [readMembers?] at read
      obtain ⟨name, _, later⟩ := Option.bind_eq_some_iff.mp read
      obtain ⟨first, here, later⟩ := Option.bind_eq_some_iff.mp later
      obtain ⟨others, there, rfl⟩ := Option.map_eq_some_iff.mp later
      exact List.forall_mem_cons.mpr ⟨isDistinct_of_read? member.2 depth first here,
        isDistinct_of_readMembers? rest depth others there⟩

end

/-! Members as they are written and as they are read. -/

theorem readMembers?_append (front back : List (List Letter × Tree)) (depth : Nat) :
    readMembers? (front ++ back) depth =
      (readMembers? front depth).bind fun first => (readMembers? back depth).map (first ++ ·) := by
  induction front with
  | nil => simp [readMembers?]
  | cons member front ih =>
      rw [List.cons_append, readMembers?, readMembers?, ih]
      cases readText? member.1 <;> cases member.2.read? depth <;> cases readMembers? front depth <;>
        cases readMembers? back depth <;> rfl

theorem exists_of_mem_readMembers? {members : List (List Letter × Tree)} {depth : Nat}
    {pairs : List (String × Json)} (read : readMembers? members depth = some pairs)
    {pair : String × Json} (among : pair ∈ pairs) :
    ∃ member ∈ members, readText? member.1 = some pair.1 := by
  induction members generalizing pairs with
  | nil =>
      cases read
      cases among
  | cons member rest ih =>
      rw [readMembers?] at read
      obtain ⟨name, named, later⟩ := Option.bind_eq_some_iff.mp read
      obtain ⟨first, _, later⟩ := Option.bind_eq_some_iff.mp later
      obtain ⟨others, there, rfl⟩ := Option.map_eq_some_iff.mp later
      obtain rfl | among := List.mem_cons.mp among
      · exact ⟨member, List.mem_cons_self, named⟩
      · obtain ⟨other, inside, same⟩ := ih there among
        exact ⟨other, List.mem_cons_of_mem member inside, same⟩

theorem isDistinct_of_parse? {text : String} {document : Json}
    (parsed : parse? text = some document) : document.isDistinct = true := by
  obtain ⟨tree, _, read⟩ := Option.bind_eq_some_iff.mp parsed
  exact isDistinct_of_read? tree depthLimit document read

end Json

/-- A controller answers with documents in which no object has two members of one name. -/
theorem Reply.isDistinct_of_decode {reply : Reply} {document : Json}
    (decoded : reply.decode = .ok document) : document.isDistinct = true := by
  cases reply with
  | answered status body =>
      simp only [decode] at decoded
      split at decoded
      · cases decoded
      · split at decoded
        · cases decoded
        · split at decoded
          · cases decoded
            rfl
          · split at decoded
            next parsed =>
              cases decoded
              exact Json.isDistinct_of_parse? parsed
            next => cases decoded
  | _ => cases decoded

end ResourceEditor
