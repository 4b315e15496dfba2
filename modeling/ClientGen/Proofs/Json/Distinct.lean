import ClientGen.Proofs.Dict
import ClientGen.Run.Document

/-!
# Distinct names

No object of a document has a member name twice: both readers put the members of an object into a
dictionary before they make a value of it.
-/

namespace ClientGen

/-- A value in which every object has pairwise distinct member names. -/
inductive Json.Distinct : Json → Prop
  | null : Distinct .null
  | bool (value : Bool) : Distinct (.bool value)
  | num (value : Number) : Distinct (.num value)
  | str (value : String) : Distinct (.str value)
  | arr {items : List Json} : (∀ item ∈ items, Distinct item) → Distinct (.arr items)
  | obj {members : List (String × Json)} : (members.map Prod.fst).Nodup →
      (∀ member ∈ members, Distinct member.2) → Distinct (.obj members)

namespace Json

theorem Distinct.of_get? {key : String} {document value : Json} (h : document.Distinct)
    (hget : document.get? key = some value) : value.Distinct := by
  cases h with
  | obj _ hmembers => exact hmembers (key, value) (Dict.mem_of_lookup hget)
  | _ => cases hget

theorem Distinct.nodup_members {document : Json} {members : List (String × Json)}
    (h : document.Distinct) (hmembers : document.members? = some members) :
    (members.map Prod.fst).Nodup := by
  cases h with
  | obj hnodup _ =>
    injection hmembers with hmembers
    rw [← hmembers]
    exact hnodup
  | _ => cases hmembers

theorem distinct_entries {members : Dict Json} (h : ∀ entry ∈ members.entries, entry.2.Distinct) :
    (Json.obj members.entries).Distinct := .obj members.distinct h

def Token.Distinct : Token → Prop
  | .value v => v.Distinct
  | _ => True

theorem distinct_wordOf? {chars : List Char} {value : Json} (h : wordOf? chars = some value) :
    value.Distinct := by
  unfold wordOf? at h
  split at h
  · cases h
    exact .null
  · cases h
    exact .bool true
  · cases h
    exact .bool false
  · cases h

theorem distinct_startToken? {c : Char} {tokens : List Token} {next : Mode}
    (h : startToken? c = some (tokens, next)) : ∀ token ∈ tokens, token.Distinct := by
  have hnone : ∀ token ∈ ([] : List Token), token.Distinct := List.forall_mem_nil _
  have hone : ∀ {mark : Token}, mark.Distinct → ∀ token ∈ [mark], token.Distinct :=
    fun hmark token htoken => by rw [List.mem_singleton.1 htoken]; exact hmark
  unfold startToken? at h
  split at h
  case h_12 =>
    split at h
    · cases h
      exact hnone
    · split at h
      · cases h
        exact hnone
      · cases h
  all_goals
    cases h
    first | exact hnone | exact hone trivial

theorem distinct_readChar? {mode next : Mode} {c : Char} {tokens : List Token}
    (h : readChar? mode c = some (tokens, next)) : ∀ token ∈ tokens, token.Distinct := by
  have hnone : ∀ token ∈ ([] : List Token), token.Distinct := List.forall_mem_nil _
  cases mode with
  | between => exact distinct_startToken? h
  | word chars =>
    rw [readChar?] at h
    split at h
    · cases h
      exact hnone
    · obtain ⟨value, hvalue, h⟩ := Option.bind_eq_some_iff.1 h
      obtain ⟨⟨rest, _⟩, hstart, h⟩ := Option.bind_eq_some_iff.1 h
      cases h
      exact List.forall_mem_cons.2 ⟨distinct_wordOf? hvalue, distinct_startToken? hstart⟩
  | number chars =>
    rw [readChar?] at h
    split at h
    · cases h
      exact hnone
    · obtain ⟨n, _, h⟩ := Option.bind_eq_some_iff.1 h
      obtain ⟨⟨rest, _⟩, hstart, h⟩ := Option.bind_eq_some_iff.1 h
      cases h
      exact List.forall_mem_cons.2 ⟨.num n, distinct_startToken? hstart⟩
  | string chars high =>
    rw [readChar?] at h
    split at h
    · cases h
      exact hnone
    · split at h
      · cases h
      · split at h
        · cases h
          exact List.forall_mem_cons.2 ⟨trivial, hnone⟩
        · cases h
          exact hnone
  | escape chars high =>
    rw [readChar?] at h
    split at h
    · cases h
      exact hnone
    · split at h
      · cases h
      · obtain ⟨_, _, h⟩ := Option.map_eq_some_iff.1 h
        cases h
        exact hnone
  | hex chars high digits value =>
    rw [readChar?] at h
    obtain ⟨d, _, h⟩ := Option.bind_eq_some_iff.1 h
    dsimp only at h
    split at h
    · obtain ⟨_, _, h⟩ := Option.map_eq_some_iff.1 h
      cases h
      exact hnone
    · cases h
      exact hnone

theorem distinct_lastTokens? {mode : Mode} {tokens : List Token}
    (h : lastTokens? mode = some tokens) : ∀ token ∈ tokens, token.Distinct := by
  unfold lastTokens? at h
  split at h
  · cases h
    exact List.forall_mem_nil _
  · obtain ⟨value, hvalue, rfl⟩ := Option.map_eq_some_iff.1 h
    exact List.forall_mem_singleton.2 (distinct_wordOf? hvalue)
  · obtain ⟨n, _, rfl⟩ := Option.map_eq_some_iff.1 h
    exact List.forall_mem_singleton.2 (.num n)
  · cases h

theorem foldlM_keeps {σ α : Type} {P : σ → Prop} {step : σ → α → Option σ} {xs : List α}
    (hstep : ∀ s, P s → ∀ a ∈ xs, ∀ s', step s a = some s' → P s') {s last : σ} (h : P s)
    (hlast : xs.foldlM step s = some last) : P last := by
  induction xs generalizing s with
  | nil =>
    injection hlast with hlast
    rwa [← hlast]
  | cons a rest ih =>
    obtain ⟨s', hs', hlast⟩ := Option.bind_eq_some_iff.1 hlast
    have hkept : P s' := hstep s h a (List.mem_cons_self ..) s' hs'
    exact ih (fun s h b hb => hstep s h b (List.mem_cons_of_mem _ hb)) hkept hlast

theorem distinct_tokens? {text : String} {tokens : List Token} (h : tokens? text = some tokens) :
    ∀ token ∈ tokens, token.Distinct := by
  obtain ⟨⟨mode, found⟩, hfound, h⟩ := Option.bind_eq_some_iff.1 h
  obtain ⟨last, hlast, rfl⟩ := Option.map_eq_some_iff.1 h
  have hbefore : ∀ token ∈ found, token.Distinct := by
    refine foldlM_keeps (P := fun state : Mode × List Token => ∀ token ∈ state.2, token.Distinct)
      ?_ (List.forall_mem_nil _) hfound
    intro state hstate c _ next hnext
    obtain ⟨⟨more, _⟩, hmore, rfl⟩ := Option.map_eq_some_iff.1 hnext
    intro token htoken
    dsimp only at htoken
    rw [List.reverseAux_eq, List.mem_append, List.mem_reverse] at htoken
    exact htoken.elim (distinct_readChar? hmore token) (hstate token)
  intro token htoken
  rw [List.reverseAux_eq, List.mem_append, List.mem_reverse] at htoken
  exact htoken.elim (hbefore token) (distinct_lastTokens? hlast token)

/-- Whether what an unfinished array or object has so far is distinct. -/
def Frame.Distinct : Frame → Prop
  | .array items => ∀ item ∈ items, item.Distinct
  | .object members _ => ∀ entry ∈ members.entries, entry.2.Distinct

/-- Whether all that has been read so far is distinct. -/
structure Reading.Distinct (state : Reading) : Prop where
  stack : ∀ frame ∈ state.stack, frame.Distinct
  value : ∀ value, state.expected = .nothing value → value.Distinct

namespace Reading

theorem distinct_place {stack : List Frame} {value : Json}
    (hstack : ∀ frame ∈ stack, frame.Distinct) (hvalue : value.Distinct) :
    (place stack value).Distinct := by
  unfold place
  split
  · refine ⟨hstack, fun other hother => ?_⟩
    cases hother
    exact hvalue
  · rename_i items outer
    obtain ⟨hitems, houter⟩ := List.forall_mem_cons.1 hstack
    refine ⟨List.forall_mem_cons.2 ⟨?_, houter⟩, fun _ hother => by cases hother⟩
    exact List.forall_mem_cons.2 ⟨hvalue, hitems⟩
  · rename_i members key outer
    obtain ⟨hmembers, houter⟩ := List.forall_mem_cons.1 hstack
    refine ⟨List.forall_mem_cons.2 ⟨?_, houter⟩, fun _ hother => by cases hother⟩
    intro entry hentry
    rcases mem_replaceOrAppend hentry with rfl | hentry
    · exact hvalue
    · exact hmembers entry hentry

theorem distinct_closeArray? {stack : List Frame} {next : Reading}
    (hstack : ∀ frame ∈ stack, frame.Distinct) (h : closeArray? stack = some next) :
    next.Distinct := by
  unfold closeArray? at h
  split at h
  · cases h
    obtain ⟨hitems, houter⟩ := List.forall_mem_cons.1 hstack
    exact distinct_place houter (.arr fun item hitem => hitems item (List.mem_reverse.1 hitem))
  · cases h

theorem distinct_closeObject? {stack : List Frame} {next : Reading}
    (hstack : ∀ frame ∈ stack, frame.Distinct) (h : closeObject? stack = some next) :
    next.Distinct := by
  unfold closeObject? at h
  split at h
  · cases h
    obtain ⟨hmembers, houter⟩ := List.forall_mem_cons.1 hstack
    exact distinct_place houter (distinct_entries hmembers)
  · cases h

theorem distinct_startValue? {stack : List Frame} {token : Token} {next : Reading}
    (hstack : ∀ frame ∈ stack, frame.Distinct) (htoken : token.Distinct)
    (h : startValue? stack token = some next) : next.Distinct := by
  have hopen : ∀ {frame expected}, Frame.Distinct frame → (∀ value, expected ≠ .nothing value) →
      Reading.Distinct ⟨frame :: stack, expected⟩ := fun hframe hexpected =>
    ⟨List.forall_mem_cons.2 ⟨hframe, hstack⟩, fun value hvalue => absurd hvalue (hexpected value)⟩
  unfold startValue? at h
  split at h
  · split at h
    · cases h
      exact hopen (List.forall_mem_nil _) (fun _ => by simp)
    · cases h
  · split at h
    · cases h
      exact hopen (List.forall_mem_nil _) (fun _ => by simp)
    · cases h
  · cases h
    exact distinct_place hstack (.str _)
  · cases h
    exact distinct_place hstack htoken
  · cases h

theorem distinct_read? {state next : Reading} {token : Token} (hstate : state.Distinct)
    (htoken : token.Distinct) (h : state.read? token = some next) : next.Distinct := by
  have hwait : ∀ {expected}, (∀ value, expected ≠ .nothing value) →
      Reading.Distinct ⟨state.stack, expected⟩ := fun hexpected =>
    ⟨hstate.stack, fun value hvalue => absurd hvalue (hexpected value)⟩
  unfold read? at h
  split at h
  case h_1 => exact distinct_startValue? hstate.stack htoken h
  case h_2 => exact distinct_closeArray? hstate.stack h
  case h_3 => exact distinct_startValue? hstate.stack htoken h
  case h_4 => exact distinct_closeObject? hstate.stack h
  case h_5 =>
    cases h
    exact hwait fun _ => by simp
  case h_6 =>
    cases h
    exact hwait fun _ => by simp
  case h_7 =>
    split at h
    · rename_i members _ outer hstack
      cases h
      have hframes := hstate.stack
      rw [hstack] at hframes
      obtain ⟨hmembers, houter⟩ := List.forall_mem_cons.1 hframes
      exact ⟨List.forall_mem_cons.2 ⟨hmembers, houter⟩, fun _ hvalue => by cases hvalue⟩
    · cases h
  case h_8 =>
    split at h
    · cases h
      exact hwait fun _ => by simp
    · cases h
      exact hwait fun _ => by simp
    · cases h
  case h_9 => exact distinct_closeArray? hstate.stack h
  case h_10 => exact distinct_closeObject? hstate.stack h
  case h_11 => cases h

end Reading

theorem distinct_parse? {text : String} {document : Json} (h : parse? text = some document) :
    document.Distinct := by
  obtain ⟨tokens, htokens, h⟩ := Option.bind_eq_some_iff.1 h
  obtain ⟨state, hstate, h⟩ := Option.bind_eq_some_iff.1 h
  have hstart : Reading.Distinct ⟨[], .value⟩ :=
    ⟨List.forall_mem_nil _, fun _ hvalue => by cases hvalue⟩
  have hend : state.Distinct := foldlM_keeps (fun _ hreading token htoken _ hnext =>
    Reading.distinct_read? hreading (distinct_tokens? htokens token htoken) hnext) hstart hstate
  split at h
  · rename_i value hexpected
    injection h with h
    rw [← h]
    exact hend.value value hexpected
  · cases h

end Json

namespace Yaml
open Json

def Yields {σ α : Type} (P : α → Prop) (x : StateT σ Option α) : Prop :=
  ∀ s a s', x.run s = some (a, s') → P a

namespace Yields

variable {σ α β : Type} {P : α → Prop} {Q : β → Prop}

theorem pure {a : α} (h : P a) : Yields P (Pure.pure a : StateT σ Option α) := by
  intro s b s' hrun
  cases hrun
  exact h

theorem failure : Yields P (Alternative.failure : StateT σ Option α) :=
  fun _ _ _ hrun => by cases hrun

theorem lift {x : Option α} (h : ∀ a, x = some a → P a) :
    Yields P (liftM x : StateT σ Option α) := by
  intro s a s' hrun
  obtain ⟨b, hb, hrun⟩ := Option.bind_eq_some_iff.1 hrun
  injection hrun with hrun
  injection hrun with hsame
  rw [← hsame]
  exact h b hb

theorem bind {x : StateT σ Option α} {f : α → StateT σ Option β} (hx : Yields P x)
    (hf : ∀ a, P a → Yields Q (f a)) : Yields Q (x >>= f) := by
  intro s b s' hrun
  obtain ⟨⟨a, t⟩, ha, hrun⟩ := Option.bind_eq_some_iff.1 hrun
  exact hf a (hx s a t ha) t b s' hrun

theorem anything {x : StateT σ Option α} : Yields (fun _ => True) x := fun _ _ _ _ => trivial

theorem mapM {f : α → StateT σ Option β} (h : ∀ a, Yields Q (f a)) (xs : List α) :
    Yields (fun bs => ∀ b ∈ bs, Q b) (xs.mapM f) := by
  induction xs with
  | nil =>
    rw [List.mapM_nil]
    exact .pure (List.forall_mem_nil _)
  | cons a rest ih =>
    rw [List.mapM_cons]
    exact .bind (h a) fun b hb => .bind ih fun bs hbs => .pure (List.forall_mem_cons.2 ⟨hb, hbs⟩)

end Yields

theorem distinct_integerValue? {text : String} {value : Json}
    (h : integerValue? text = some (some value)) : value.Distinct := by
  unfold integerValue? at h
  split at h
  · cases h
  · split at h
    · cases h
      exact .num _
    · split at h <;> cases h

theorem distinct_realValue? {text : String} {value : Json} (h : realValue? text = some value) :
    value.Distinct := by
  unfold realValue? at h
  split at h
  · cases h
    exact .null
  · obtain ⟨_, _, rfl⟩ := Option.map_eq_some_iff.1 h
    exact .num _

theorem distinct_plainValue? {text : String} {value : Json} (h : plainValue? text = some value) :
    value.Distinct := by
  unfold plainValue? at h
  split at h
  · cases h
    exact .null
  · split at h
    · cases h
      exact .bool _
    · rename_i hinteger
      rw [h] at hinteger
      exact distinct_integerValue? hinteger
    · split at h
      · cases h
        exact .str text
      · injection h with h
        cases hreal : realValue? text with
        | none =>
          rw [hreal] at h
          rw [← h]
          exact .str text
        | some real =>
          rw [hreal] at h
          rw [← h]
          exact distinct_realValue? hreal

theorem distinct_scalarValue? {tag? : Option String} {style : Style} {text : String}
    {value : Json} (h : scalarValue? tag? style text = some value) : value.Distinct := by
  unfold scalarValue? at h
  split at h
  · cases h
  · split at h
    · split at h
      · exact distinct_plainValue? h
      · cases h
        exact .str text
    · split at h
      · obtain ⟨_, _, rfl⟩ := Option.map_eq_some_iff.1 h
        exact .bool _
      · split at h
        · obtain ⟨_, hinteger, rfl⟩ := Option.bind_eq_some_iff.1 h
          exact distinct_integerValue? hinteger
        · split at h
          · exact distinct_realValue? h
          · split at h
            · split at h
              · cases h
                exact .null
              · cases h
            · cases h
              exact .str text

theorem distinct_entries_ofList {members : List (String × Json)}
    (h : ∀ member ∈ members, member.2.Distinct) :
    (Json.obj (Dict.ofList members).entries).Distinct := by
  exact distinct_entries fun member hmember => h member (mem_of_mem_keyed hmember)

theorem distinct_valueOf (document : Document) (depth : Nat) (node : Node) :
    Yields Json.Distinct (document.valueOf depth node) := by
  -- on the depth that is left: what is nested is read one level deeper
  induction depth generalizing node with
  | zero => exact .failure
  | succ depth ih =>
    unfold Document.valueOf
    refine .bind .anything fun found _ => ?_
    split
    · exact .lift fun _ => distinct_scalarValue?
    · rename_i items
      have hitems := Yields.mapM ih items
      dsimp only
      split
      · exact .bind .failure fun _ (h : False) => h.elim
      · exact .bind hitems fun _ hvalues => .pure (.arr hvalues)
    · rename_i entries
      have hmembers : Yields (fun members : List (String × Json) =>
          ∀ member ∈ members, member.2.Distinct) (entries.mapM fun entry => do
            return (← document.key entry.1, ← document.valueOf depth entry.2)) := by
        refine Yields.mapM (Q := fun member : String × Json => member.2.Distinct) ?_ entries
        intro entry
        exact .bind .anything fun _ _ => .bind (ih entry.2) fun _ hvalue => .pure hvalue
      dsimp only
      split
      · exact .bind .failure fun _ (h : False) => h.elim
      · exact .bind hmembers fun _ hvalues => .pure (distinct_entries_ofList hvalues)
    · exact .failure

theorem distinct_value? {document : Document} {value : Json}
    (h : document.value? = some value) : value.Distinct := by
  obtain ⟨⟨_, _⟩, hrun, rfl⟩ := Option.map_eq_some_iff.1 h
  exact distinct_valueOf document _ _ _ _ _ hrun

end Yaml

/-- Every document that is read from a text has distinct names. -/
theorem distinct_readDocument? {text : String} {document : Json}
    (h : readDocument? text = some document) : document.Distinct := by
  rcases Option.or_eq_some_iff.1 h with h | ⟨_, h⟩
  · exact Json.distinct_parse? h
  · obtain ⟨_, _, h⟩ := Option.bind_eq_some_iff.1 h
    exact Yaml.distinct_value? h

end ClientGen
