import ArgumentSchema.Class

/-!
# Lines of ancestors

The ancestors of a class are those of the classes that it extends, whatever the order that merging
gives them. So what holds of classes goes up from the classes that they extend:

> `Class.bases_induction`: what holds of the built-in classes, and of a declared class if it holds of
> the classes that it extends, holds of all classes.
> `Class.lineage_subset`: the ancestors of an ancestor are ancestors.
> `Class.isOpen_of_mem_user`: no declared class has a closed class above it.
-/

namespace ArgumentSchema.Class

/-- What holds of the built-in classes, and of a declared class if it holds of the classes that it
extends, holds of all classes. -/
@[elab_as_elim]
theorem bases_induction {motive : Class → Prop} (builtin : ∀ b, motive (.builtin b))
    (user : ∀ d : DeclaredClass, (∀ b ∈ d.bases.classes, motive b) → motive (.user d)) (c : Class) :
    motive c := by
  have hdeclared : ∀ d : DeclaredClass, motive (.user d) := by
    refine @DeclaredClass.rec (fun d => motive (.user d)) (fun bs => ∀ b ∈ bs.classes, motive b)
      ?_ ?_ ?_ ?_
    · exact fun name bases callable mapping ih => user _ ih
    · exact fun b hb => absurd hb List.not_mem_nil
    · intro c more ih b hb
      rcases List.mem_cons.mp hb with rfl | hb
      · exact builtin c.1
      · exact ih b hb
    · intro c more ihc ih b hb
      rcases List.mem_cons.mp hb with rfl | hb
      · exact ihc
      · exact ih b hb
  cases c with
  | builtin b => exact builtin b
  | user d => exact hdeclared d

variable {c d : Class} {b : BuiltinClass} {u : DeclaredClass}

/-- The ancestors of an ancestor are ancestors. -/
theorem lineage_subset (h : c ∈ d.lineage) : c.lineage ⊆ d.lineage := by
  induction d using bases_induction with
  | builtin e =>
    have hall : ∀ b ∈ e.lineage, ∀ a ∈ b.lineage, a ∈ e.lineage := by
      cases e <;> decide
    cases c with
    | user u => exact absurd h user_not_mem_lineage_builtin
    | builtin b =>
      intro a ha
      cases a with
      | user u => exact absurd ha user_not_mem_lineage_builtin
      | builtin a =>
        rw [mem_lineage_builtin] at h ha ⊢
        exact hall b h a ha
  | user u ih =>
    rcases mem_lineage_user.mp h with rfl | ⟨base, hbase, hc⟩ | rfl
    · exact List.Subset.refl _
    · exact fun a ha => mem_lineage_user.mpr (.inr (.inl ⟨base, hbase, ih base hbase hc ha⟩))
    · intro a ha
      rw [List.mem_singleton.mp ha]
      exact h

theorem isOpen_of_mem_classes : ∀ {bs : Bases}, .builtin b ∈ bs.classes → b.isOpen = true
  | .none, h => absurd h List.not_mem_nil
  | .builtin c _, h =>
    (List.mem_cons.mp h).elim (fun heq => builtin.inj heq ▸ c.2) isOpen_of_mem_classes
  | .declared _ _, h => (List.mem_cons.mp h).elim (fun heq => nomatch heq) isOpen_of_mem_classes

/-- No declared class has a closed class above it. -/
theorem isOpen_of_mem_user (h : .builtin b ∈ (user u).lineage) : b.isOpen = true := by
  have hopen : ∀ c : Class, (∀ b, c = .builtin b → b.isOpen = true) →
      ∀ b, .builtin b ∈ c.lineage → b.isOpen = true := by
    intro c
    induction c using bases_induction with
    | builtin e =>
      intro he b hb
      have hall : e.isOpen = true → ∀ a ∈ e.lineage, a.isOpen = true := by
        cases e <;> decide
      exact hall (he e rfl) b (mem_lineage_builtin.mp hb)
    | user u ih =>
      intro _ b hb
      rcases mem_lineage_user.mp hb with heq | ⟨base, hbase, hb⟩ | heq
      · cases heq
      · refine ih base hbase (fun e he => ?_) b hb
        subst he
        exact isOpen_of_mem_classes hbase
      · obtain rfl := Class.builtin.inj heq
        rfl
  exact hopen _ (fun _ heq => by cases heq) b h

end ArgumentSchema.Class
