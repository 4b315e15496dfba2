import ClientGen.Proofs.Dict
import ClientGen.Yaml.Value

/-!
# Nodes that present values

A value is put into a document without tags, anchors and aliases: plain scalars are written where
they denote the value, and quotes are used for all other texts. Whatever is presented in this way is
what the document denotes.
-/

namespace ClientGen

/-- Whether the collections of a value are nested at most as deep as given. -/
def Json.NestsWithin : Nat → Json → Prop
  | 0, .arr _ => False
  | 0, .obj _ => False
  | depth + 1, .arr items => ∀ item ∈ items, item.NestsWithin depth
  | depth + 1, .obj members => ∀ member ∈ members, member.2.NestsWithin depth
  | _, _ => True

theorem mapM_eq_pure {m : Type → Type} [Monad m] [LawfulMonad m] {α β : Type} {R : α → β → Prop}
    {read : α → m β} {items : List α} {values : List β} (h : List.Forall₂ R items values)
    (hread : ∀ item value, value ∈ values → R item value → read item = pure value) :
    items.mapM read = pure values := by
  induction h with
  | nil => exact List.mapM_nil
  | cons hhead _ ih =>
    have htail := ih fun item value hvalue => hread item value (List.mem_cons_of_mem _ hvalue)
    rw [List.mapM_cons, hread _ _ List.mem_cons_self hhead, pure_bind, htail, pure_bind]

namespace Yaml

def isAbsent (text : String) : Bool := text = "" || isNullText text

theorem eq_num_of_integerValue? {text : String} {value : Json}
    (h : integerValue? text = some (some value)) : ∃ n, value = .num n := by
  unfold integerValue? at h
  split at h
  · cases h
  · rename_i n _
    split at h
    · exact ⟨.int n, (Option.some.inj (Option.some.inj h)).symm⟩
    · split at h <;> cases h

theorem eq_num_of_realValue? {text : String} {value : Json} (h : realValue? text = some value)
    (hfinite : isNotFinite text = false) : ∃ n, value = .num n := by
  rw [realValue?, hfinite, if_neg Bool.false_ne_true] at h
  obtain ⟨x, -, rfl⟩ := Option.map_eq_some_iff.1 h
  exact ⟨.real x, rfl⟩

/-- What a plain scalar may denote. -/
inductive PlainReading (text : String) : Json → Prop
  | absent (h : isAbsent text = true) : PlainReading text .null
  | truth {b : Bool} (h : truthOf? text = some b) : PlainReading text (.bool b)
  | number (n : Number) : PlainReading text (.num n)
  | text (h : isAbsent text = false) : PlainReading text (.str text)

theorem plainReading_of_plainValue? {text : String} {value : Json}
    (h : plainValue? text = some value) (hfinite : isNotFinite text = false) :
    PlainReading text value := by
  rw [plainValue?, ← isAbsent] at h
  cases habsent : isAbsent text with
  | true =>
    rw [habsent, if_pos rfl] at h
    cases h
    exact .absent habsent
  | false =>
    rw [habsent, if_neg Bool.false_ne_true] at h
    cases htruth : truthOf? text with
    | some b =>
      rw [htruth] at h
      cases h
      exact .truth htruth
    | none =>
      rw [htruth] at h
      cases hinteger : integerValue? text with
      | some value? =>
        rw [hinteger] at h
        obtain ⟨n, rfl⟩ := eq_num_of_integerValue? (hinteger.trans (congrArg some h))
        exact .number n
      | none =>
        rw [hinteger] at h
        dsimp only at h
        cases hreal : realValue? text with
        | none =>
          rw [hreal, Option.getD_none, ite_self] at h
          cases h
          exact .text habsent
        | some x =>
          rw [hreal, Option.getD_some] at h
          split at h
          · cases h
            exact .text habsent
          · cases h
            obtain ⟨n, rfl⟩ := eq_num_of_realValue? hreal hfinite
            exact .number n

/-- A node presents a value. A plain scalar that is infinite or undefined presents none, although it
denotes null. The keys of a mapping are the names of the members, each once. -/
inductive Node.Presents : Node → Json → Prop
  | plain {text : String} {value : Json} (hvalue : plainValue? text = some value)
      (hfinite : isNotFinite text = false) : Presents (.scalar none .plain text) value
  | quoted {style : Style} {text : String} (hstyle : style ≠ .plain) :
      Presents (.scalar none style text) (.str text)
  | sequence {items : List Node} {values : List Json}
      (hitems : List.Forall₂ Presents items values) : Presents (.sequence none items) (.arr values)
  | mapping {entries : List (Node × Node)} {members : List (String × Json)}
      (hkeys : List.Forall₂ (fun entry member => ∃ style, entry.1 = .scalar none style member.1)
        entries members)
      (hdistinct : (members.map Prod.fst).Nodup)
      (hvalues : List.Forall₂ Presents (entries.map Prod.snd) (members.map Prod.snd)) :
      Presents (.mapping none entries) (.obj members)

theorem scalarValue?_quoted {style : Style} {text : String} (h : style ≠ .plain) :
    scalarValue? none style text = some (.str text) := if_neg h

theorem forall₂_entries {α β γ δ : Type} {R : α × β → γ × δ → Prop} {S : β → δ → Prop}
    {entries : List (α × β)} {members : List (γ × δ)} (hkeys : List.Forall₂ R entries members)
    (hvalues : List.Forall₂ S (entries.map Prod.snd) (members.map Prod.snd)) :
    List.Forall₂ (fun entry member => R entry member ∧ S entry.2 member.2) entries members := by
  rw [List.forall₂_map_left_iff, List.forall₂_map_right_iff] at hvalues
  exact hkeys.mp (fun _ _ => And.intro) hvalues

namespace Node.Presents

variable {node : Node}

theorem of_null (h : node.Presents .null) :
    ∃ text, node = .scalar none .plain text ∧ isAbsent text = true := by
  cases h with
  | plain hvalue hfinite =>
    cases plainReading_of_plainValue? hvalue hfinite with
    | absent habsent => exact ⟨_, rfl, habsent⟩

theorem of_bool {b : Bool} (h : node.Presents (.bool b)) :
    ∃ text, node = .scalar none .plain text ∧ truthOf? text = some b := by
  cases h with
  | plain hvalue hfinite =>
    cases plainReading_of_plainValue? hvalue hfinite with
    | truth htruth => exact ⟨_, rfl, htruth⟩

theorem of_text {s : String} (h : node.Presents (.str s)) :
    ∃ style, node = .scalar none style s ∧ scalarValue? none style s = some (.str s) ∧
      (style = .plain → isAbsent s = false) := by
  cases h with
  | plain hvalue hfinite =>
    cases plainReading_of_plainValue? hvalue hfinite with
    | text hs => exact ⟨.plain, rfl, hvalue, fun _ => hs⟩
  | quoted hstyle => exact ⟨_, rfl, scalarValue?_quoted hstyle, fun hplain => absurd hplain hstyle⟩

theorem of_array {values : List Json} (h : node.Presents (.arr values)) :
    ∃ items, node = .sequence none items ∧ List.Forall₂ Presents items values := by
  cases h with
  | plain hvalue hfinite => cases plainReading_of_plainValue? hvalue hfinite
  | sequence hitems => exact ⟨_, rfl, hitems⟩

theorem of_object {members : List (String × Json)} (h : node.Presents (.obj members)) :
    ∃ entries, node = .mapping none entries ∧ List.Forall₂ (fun entry member =>
      (∃ style, entry.1 = .scalar none style member.1) ∧ entry.2.Presents member.2)
        entries members := by
  cases h with
  | plain hvalue hfinite => cases plainReading_of_plainValue? hvalue hfinite
  | mapping hkeys _ hvalues => exact ⟨_, rfl, forall₂_entries hkeys hvalues⟩

end Node.Presents

namespace Document

variable (document : Document)

theorem valueOf_scalar {style : Style} {text : String} {value : Json} (depth : Nat)
    (h : scalarValue? none style text = some value) :
    document.valueOf (depth + 1) (.scalar none style text) = pure value := by
  have hfollow : document.follow (.scalar none style text) = pure (.scalar none style text) := rfl
  rw [valueOf, hfollow, pure_bind]
  simp only [h]
  rfl

theorem valueOf_sequence {items : List Node} {values : List Json} {depth : Nat}
    (h : items.mapM (document.valueOf (depth + 1)) = pure values) :
    document.valueOf (depth + 2) (.sequence none items) = pure (.arr values) := by
  have hfollow : document.follow (.sequence none items) = pure (.sequence none items) := rfl
  rw [valueOf, hfollow, pure_bind]
  simp only [h, isOwnTag]
  rfl

theorem key_scalar {style : Style} {text : String} :
    document.key (.scalar none style text) = pure text := rfl

theorem valueOf_mapping {entries : List (Node × Node)} {members : List (String × Json)}
    {depth : Nat} (hdistinct : (members.map Prod.fst).Nodup)
    (h : (entries.mapM fun (key, value) => do
      return (← document.key key, ← document.valueOf (depth + 1) value)) = pure members) :
    document.valueOf (depth + 2) (.mapping none entries) = pure (.obj members) := by
  have hfollow : document.follow (.mapping none entries) = pure (.mapping none entries) := rfl
  calc
    document.valueOf (depth + 2) (.mapping none entries)
    _ = pure (.obj (Dict.ofList members).entries) := by
      rw [valueOf, hfollow, pure_bind]
      simp only [h, isOwnTag]
      rfl
    _ = pure (.obj members) := by rw [Dict.entries_ofList hdistinct]

/-- A presented value is what its node denotes. -/
theorem valueOf_of_presents {node : Node} {value : Json} (h : node.Presents value) {depth : Nat}
    (hdepth : value.NestsWithin depth) : document.valueOf (depth + 1) node = pure value := by
  induction depth generalizing node value with
  | zero =>
    cases h with
    | plain hvalue _ => exact document.valueOf_scalar 0 hvalue
    | quoted hstyle => exact document.valueOf_scalar 0 (scalarValue?_quoted hstyle)
    | sequence _ => exact hdepth.elim
    | mapping _ _ _ => exact hdepth.elim
  | succ depth ih =>
    cases h with
    | plain hvalue _ => exact document.valueOf_scalar _ hvalue
    | quoted hstyle => exact document.valueOf_scalar _ (scalarValue?_quoted hstyle)
    | sequence hitems =>
      exact document.valueOf_sequence <| mapM_eq_pure hitems fun item value hvalue hitem =>
        ih hitem (hdepth value hvalue)
    | mapping hkeys hdistinct hvalues =>
      refine document.valueOf_mapping hdistinct <| mapM_eq_pure (forall₂_entries hkeys hvalues) ?_
      rintro ⟨key, item⟩ ⟨name, value⟩ hmember ⟨⟨style, rfl⟩, hitem⟩
      dsimp only at hitem ⊢
      rw [key_scalar, pure_bind, ih hitem (hdepth (name, value) hmember), pure_bind]

theorem value?_of_presents {value : Json} (h : document.root.Presents value)
    (hdepth : value.NestsWithin maxDepth) : document.value? = some value := by
  rw [value?, document.valueOf_of_presents h hdepth]
  rfl

end Document

end Yaml

end ClientGen
