import ClientGen.Json.Pointer
import Mathlib.Data.List.Basic

/-!
# Texts of pointers

A pointer to a place in a value is written from the names that lead there. In each of its steps
the tildes and slashes of a name are escaped, and following the pointer undoes that.
-/

namespace ClientGen.Json

def escapeStepChar (c : Char) : List Char :=
  if c = '~' then ['~', '0'] else if c = '/' then ['~', '1'] else [c]

def escapeStep (name : List Char) : List Char := name.flatMap escapeStepChar

theorem escapeStepChar_plain {c : Char} (htilde : c ≠ '~') (hslash : c ≠ '/') :
    escapeStepChar c = [c] := by
  rw [escapeStepChar, if_neg htilde, if_neg hslash]

theorem unescapeStep_cons {c : Char} (h : c ≠ '~') (rest : List Char) :
    unescapeStep (c :: rest) = c :: unescapeStep rest := by
  conv_lhs => unfold unescapeStep
  split <;> simp_all

theorem unescapeStep_escapeStep (name : List Char) : unescapeStep (escapeStep name) = name := by
  induction name with
  | nil => rfl
  | cons c rest ih =>
    unfold escapeStep at *
    rw [List.flatMap_cons]
    by_cases htilde : c = '~'
    · subst htilde
      simp [escapeStepChar, unescapeStep, ih]
    by_cases hslash : c = '/'
    · subst hslash
      simp [escapeStepChar, unescapeStep, ih]
    · rw [escapeStepChar_plain htilde hslash, List.singleton_append, unescapeStep_cons htilde, ih]

theorem slash_not_mem_escapeStep (name : List Char) : '/' ∉ escapeStep name := by
  intro h
  obtain ⟨c, -, hc⟩ := List.mem_flatMap.1 h
  by_cases htilde : c = '~'
  · simp [escapeStepChar, htilde] at hc
  by_cases hslash : c = '/'
  · simp [escapeStepChar, hslash] at hc
  · rw [escapeStepChar_plain htilde hslash, List.mem_singleton] at hc
    exact hslash hc.symm

theorem length_escapeStep (name : List Char) :
    (escapeStep name).length = name.length + name.count '~' + name.count '/' := by
  induction name with
  | nil => rfl
  | cons c rest ih =>
    have hcons : (escapeStep (c :: rest)).length =
        (escapeStepChar c).length + (escapeStep rest).length := by
      rw [escapeStep, List.flatMap_cons, List.length_append]
      rfl
    by_cases htilde : c = '~'
    · subst htilde
      have hchar : (escapeStepChar '~').length = 2 := rfl
      rw [hcons, hchar, ih, List.count_cons_self, List.count_cons_of_ne (by decide),
        List.length_cons]
      omega
    by_cases hslash : c = '/'
    · subst hslash
      have hchar : (escapeStepChar '/').length = 2 := rfl
      rw [hcons, hchar, ih, List.count_cons_self, List.count_cons_of_ne (by decide),
        List.length_cons]
      omega
    · have hchar : (escapeStepChar c).length = 1 := by rw [escapeStepChar_plain htilde hslash]; rfl
      rw [hcons, hchar, ih, List.count_cons_of_ne htilde, List.count_cons_of_ne hslash,
        List.length_cons]
      omega

theorem escapeStep_eq_self_iff {name : List Char} :
    escapeStep name = name ↔ '~' ∉ name ∧ '/' ∉ name := by
  constructor
  · intro h
    have hlength := length_escapeStep name
    rw [h] at hlength
    have htilde : name.count '~' = 0 := by omega
    have hslash : name.count '/' = 0 := by omega
    exact ⟨List.count_eq_zero.1 htilde, List.count_eq_zero.1 hslash⟩
  · rintro ⟨htilde, hslash⟩
    have hplain : ∀ c ∈ name, escapeStepChar c = [c] := fun c hc =>
      escapeStepChar_plain (fun h => htilde (h ▸ hc)) fun h => hslash (h ▸ hc)
    rw [escapeStep, List.flatMap_congr hplain, List.flatMap_singleton']

/-- The pointer that takes some names as its steps. -/
def pointerText (steps : List String) : String :=
  String.ofList (steps.flatMap fun step => '/' :: escapeStep step.toList)

theorem splitOn_steps (step : String) (steps : List String) :
    (escapeStep step.toList ++ steps.flatMap fun s => '/' :: escapeStep s.toList).splitOn '/' =
      (step :: steps).map fun s => escapeStep s.toList := by
  induction steps generalizing step with
  | nil =>
    rw [List.flatMap_nil, List.append_nil, List.splitOn_eq_singleton (slash_not_mem_escapeStep _)]
    rfl
  | cons next rest ih =>
    rw [List.flatMap_cons, List.cons_append,
      List.splitOn_append_cons_self_of_not_mem (slash_not_mem_escapeStep _), ih]
    rfl

theorem foldl_bind_eq_foldlM {α : Type} (f : Json → α → Option Json) (steps : List α)
    (start : Option Json) :
    steps.foldl (fun place step => place.bind (f · step)) start =
      start.bind fun place => steps.foldlM f place := by
  induction steps generalizing start with
  | nil => cases start <;> rfl
  | cons step rest ih =>
    rw [List.foldl_cons, ih]
    cases start with
    | none => rfl
    | some place =>
      rw [Option.bind_some, Option.bind_some, List.foldlM_cons]
      rfl

theorem pointer?_pointerText (steps : List String) (document : Json) :
    document.pointer? (pointerText steps) =
      steps.foldlM (fun place step => place.step? step.toList) document := by
  cases steps with
  | nil => rfl
  | cons step rest =>
    have htext : (pointerText (step :: rest)).toList =
        '/' :: (escapeStep step.toList ++ rest.flatMap fun s => '/' :: escapeStep s.toList) := by
      rw [pointerText, String.toList_ofList, List.flatMap_cons, List.cons_append]
    unfold pointer?
    rw [htext]
    simp only [splitOn_steps, List.map_map, List.foldl_map, Function.comp_apply,
      unescapeStep_escapeStep]
    exact foldl_bind_eq_foldlM (fun place (step : String) => place.step? step.toList) _ _

theorem step?_of_get? {key : String} {document value : Json}
    (h : document.get? key = some value) : document.step? key.toList = some value := by
  cases document with
  | obj members =>
    rw [step?, String.ofList_toList]
    exact h
  | _ => cases h

theorem foldlM_step?_of_get? {steps : List String} {document value : Json}
    (h : steps.foldlM (fun place step => place.get? step) document = some value) :
    steps.foldlM (fun place step => place.step? step.toList) document = some value := by
  induction steps generalizing document with
  | nil => exact h
  | cons step rest ih =>
    rw [List.foldlM_cons] at h ⊢
    obtain ⟨place, hplace, h⟩ := Option.bind_eq_some_iff.1 h
    exact Option.bind_eq_some_iff.2 ⟨place, step?_of_get? hplace, ih h⟩

end ClientGen.Json
