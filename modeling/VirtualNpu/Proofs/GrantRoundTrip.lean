import VirtualNpu.Proofs.GrantGrammar
import VirtualNpu.Proofs.JsonWriting

/-!
Grants survive being written and read: the text of any grants is an annotation of exactly
these grants, and nothing is left of how an annotation was written once it is decoded.
-/

namespace VirtualNpu
namespace Allocation

/-! ### Entries -/

theorem grants_toJson (grant : Grant) : Grants grant.toJson grant := by
  obtain ⟨uuid, template⟩ := grant
  unfold Grant.toJson
  by_cases whole : template = ""
  · subst whole
    rw [if_pos rfl]
    exact .object (by simp) (by simp [Json.valuesNamed]) (by simpa [Json.valuesNamed] using .absent)
  · rw [if_neg whole]
    exact .object (by simp) (by simp [Json.valuesNamed])
      (by simpa [Json.valuesNamed] using .given template)

theorem writable_toJson (grant : Grant) : Json.Writable grant.toJson := by
  unfold Grant.toJson
  split
  · exact .record (by simpa using .text)
  · exact .record (by simpa using ⟨.text, .text⟩)

/-! ### Texts -/

private theorem writeItems_ends (items : List Json.Value) :
    ∃ front, Json.writeItems items = front ++ [']'] := by
  induction items with
  | nil => exact ⟨[], rfl⟩
  | cons item items ih =>
      obtain ⟨front, written⟩ := ih
      refine ⟨',' :: (item.write ++ front), ?_⟩
      rw [Json.writeItems, written, List.cons_append, List.append_assoc]

theorem encode_brackets (grants : List Grant) :
    ∃ inside, (encode grants).toList = '[' :: (inside ++ [']']) := by
  unfold encode Json.Value.render
  rw [String.toList_ofList]
  cases grants with
  | nil => exact ⟨[], rfl⟩
  | cons grant grants =>
      obtain ⟨front, written⟩ := writeItems_ends (grants.map Grant.toJson)
      refine ⟨grant.toJson.write ++ front, ?_⟩
      rw [List.map_cons, Json.Value.write, written, List.append_assoc]

theorem encode_not_blank (grants : List Grant) :
    ∃ c ∈ (encode grants).toList, Text.isBlank c = false := by
  obtain ⟨inside, brackets⟩ := encode_brackets grants
  refine ⟨'[', ?_, by decide⟩
  rw [brackets]
  exact List.mem_cons_self

theorem trim_encode (grants : List Grant) : Text.trim (encode grants) = encode grants := by
  obtain ⟨inside, brackets⟩ := encode_brackets grants
  apply Text.trim_eq_self
  · intro c first
    rw [brackets, List.head?_cons] at first
    cases first
    decide
  · intro c last
    rw [brackets, ← List.cons_append, List.getLast?_concat] at last
    cases last
    decide

theorem isGrantText_encode (grants : List Grant) : IsGrantText grants (encode grants) := by
  refine ⟨grants.map Grant.toJson, ?_, ?_⟩
  · exact (Json.parse?_eq_some_iff _ _).mp
      (Json.parse?_render (Json.writable_map writable_toJson grants))
  · rw [List.forall₂_map_left_iff]
    exact List.forall₂_same.mpr fun grant _ => grants_toJson grant

theorem decode_encode (key : String) (grants : List Grant) :
    decode key (some (encode grants)) = .ok grants := by
  have read := (parseGrants?_eq_some_iff _ grants).mpr (isGrantText_encode grants)
  rw [decode_written key (encode_not_blank grants), trim_encode, read, Option.elim_some]

/-- Grants are read back from their text as they were, whatever the key.  An annotation that
was written in another way is decoded to grants that are kept from then on, and a text of
grants is not changed by reading and writing it. -/
theorem grants_survive_encoding :
    (∀ grants, (∃ c ∈ (encode grants).toList, Text.isBlank c = false) ∧
      Text.trim (encode grants) = encode grants ∧
      ∀ key, decode key (some (encode grants)) = .ok grants) ∧
    (∀ key value grants, decode key value = .ok grants →
      ∀ other, decode other (some (encode grants)) = .ok grants) ∧
    ∀ key grants, ∃ read, decode key (some (encode grants)) = .ok read ∧
      encode read = encode grants := by
  refine ⟨?_, ?_, ?_⟩
  · intro grants
    exact ⟨encode_not_blank grants, trim_encode grants, fun key => decode_encode key grants⟩
  · intro key value grants _ other
    exact decode_encode other grants
  · intro key grants
    exact ⟨grants, decode_encode key grants, rfl⟩

/-- An entry that is an array, with an escape that the writer does not use. -/
theorem rewritten_annotation :
    decode "granted" (some " [[\"A\\u0042\",\"\"]]") = .ok [⟨"AB", ""⟩] ∧
    encode [⟨"AB", ""⟩] = "[\x7b\"uuid\":\"AB\"\x7d]" ∧
    decode "kept" (some "[\x7b\"uuid\":\"AB\"\x7d]") = .ok [⟨"AB", ""⟩] := by
  refine ⟨rfl, rfl, ?_⟩
  exact grants_survive_encoding.2.1 "granted" (some " [[\"A\\u0042\",\"\"]]") [⟨"AB", ""⟩] rfl
    "kept"

end Allocation
end VirtualNpu
