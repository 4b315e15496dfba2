import ClientGen.Proofs.Text.PlainName
import ClientGen.Schema.Basic
import ClientGen.Text.Quoted

/-!
# Identifiers as plain keys

An identifier can stand without quotes wherever a plain key can: it starts with no digit and goes
on with letters, digits and underscores. So do the identifiers that are made of one.
-/

namespace ClientGen.Text

theorem isKeyChar_of_isNameChar {c : Char} (h : isNameChar c = true) : isKeyChar c = true := by
  unfold isNameChar at h
  rw [isKeyChar, h, Bool.true_or]

theorem isKeyStart_of_isNameChar {c : Char} (h : isNameChar c = true) (hdigit : c.isDigit = false) :
    isKeyStart c = true := by
  rw [isNameChar, Char.isAlphanum, hdigit, Bool.or_false] at h
  rw [isKeyStart, h, Bool.true_or]

theorem isPlainKey_append {name more : List Char} (hname : isPlainKey name = true)
    (hmore : ∀ c ∈ more, isKeyChar c = true) : isPlainKey (name ++ more) = true := by
  cases name with
  | nil => cases hname
  | cons c rest =>
    rw [isPlainKey, Bool.and_eq_true, List.all_eq_true] at hname
    rw [List.cons_append, isPlainKey, Bool.and_eq_true, List.all_eq_true]
    refine ⟨hname.1, fun d hd => ?_⟩
    rw [← List.cons_append, List.mem_append] at hd
    exact hd.elim (hname.2 d) (hmore d)

theorem isPlainKey_guardStart {name : List Char} (h : ∀ c ∈ name, isNameChar c = true) :
    isPlainKey (guardStart name) = true := by
  have hall : ∀ c ∈ name, isKeyChar c = true := fun c hc => isKeyChar_of_isNameChar (h c hc)
  cases name with
  | nil => rfl
  | cons c rest =>
    rw [guardStart]
    split
    · have hunder : isPlainKey ['_'] = true := rfl
      exact isPlainKey_append hunder hall
    · rename_i hdigit
      rw [isPlainKey, Bool.and_eq_true, List.all_eq_true]
      refine ⟨isKeyStart_of_isNameChar (h c (List.mem_cons_self ..)) ?_, hall⟩
      exact eq_false_of_ne_true hdigit

theorem isPlainKey_identifier (name : String) : isPlainKey (identifier name).toList = true := by
  rw [identifier, String.toList_ofList]
  exact isPlainKey_guardStart fun _ => isNameChar_of_mem_maskName

end ClientGen.Text

namespace ClientGen
open Text

theorem isPlainKey_serializerIdent (name : String) :
    isPlainKey (serializerIdent name).toList = true := by
  have hall : ∀ c ∈ (identifier name).toList ++ "Serializer".toList, isKeyChar c = true := by
    intro c hc
    rcases List.mem_append.1 hc with hc | hc
    · exact isKeyChar_of_isNameChar (isNameChar_of_mem_identifier hc)
    · exact (List.all_eq_true.1 (by decide : "Serializer".toList.all isKeyChar = true)) c hc
  have hstart : isPlainKey "I".toList = true := by decide
  rw [serializerIdent, String.toList_append, String.toList_append, List.append_assoc]
  exact isPlainKey_append hstart hall

theorem isPlainKey_of_typeIdent? {name ident : String} {target : Target}
    (h : typeIdent? name target = some ident) : isPlainKey ident.toList = true := by
  cases target with
  | model =>
    injection h with h
    rw [← h]
    exact isPlainKey_serializerIdent name
  | enum =>
    injection h with h
    rw [← h]
    exact isPlainKey_identifier name
  | unresolved => cases h

end ClientGen
