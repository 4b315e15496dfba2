/-!
# Ordered sets as sorted lists

Sets of names and imports are lists in strictly increasing order. Text is ordered by code point.
-/

namespace ClientGen

variable {α : Type} [LT α] [DecidableLT α] [DecidableEq α]

/-- Adds an element to a sorted list unless it is there. -/
def insertOrdered (a : α) : List α → List α
  | [] => [a]
  | b :: rest =>
    if a = b then b :: rest
    else if a < b then a :: b :: rest
    else b :: insertOrdered a rest

/-- The elements of a list in increasing order, each once. -/
def orderedSet (xs : List α) : List α := xs.foldl (fun set a => insertOrdered a set) []

@[simp] theorem mem_insertOrdered {a b : α} {xs : List α} :
    b ∈ insertOrdered a xs ↔ b = a ∨ b ∈ xs := by
  induction xs with
  | nil => simp [insertOrdered]
  | cons c rest ih =>
    by_cases h : a = c
    · simp [insertOrdered, h]
    · by_cases hlt : a < c
      · simp [insertOrdered, h, hlt]
      · simp only [insertOrdered, if_neg h, if_neg hlt, List.mem_cons, ih]
        constructor
        · rintro (h' | h' | h')
          · exact .inr (.inl h')
          · exact .inl h'
          · exact .inr (.inr h')
        · rintro (h' | h' | h')
          · exact .inr (.inl h')
          · exact .inl h'
          · exact .inr (.inr h')

theorem mem_foldl_insertOrdered {b : α} (xs set : List α) :
    b ∈ xs.foldl (fun set a => insertOrdered a set) set ↔ b ∈ xs ∨ b ∈ set := by
  induction xs generalizing set with
  | nil => simp
  | cons a rest ih =>
    simp only [List.foldl_cons, ih, mem_insertOrdered, List.mem_cons]
    constructor
    · rintro (h | h | h)
      · exact .inl (.inr h)
      · exact .inl (.inl h)
      · exact .inr h
    · rintro ((h | h) | h)
      · exact .inr (.inl h)
      · exact .inl h
      · exact .inr (.inr h)

@[simp] theorem mem_orderedSet {b : α} {xs : List α} : b ∈ orderedSet xs ↔ b ∈ xs := by
  simp [orderedSet, mem_foldl_insertOrdered]

end ClientGen
