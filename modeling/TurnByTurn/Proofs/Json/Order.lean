import TurnByTurn.Proofs.Json.Records

/-! # The order of members

Two trees that differ only in the order of the members of their objects, at any depth, mean the same.

* **`Reordered`** — the trees that come from a tree by reordering members.
* **`Respects`** — what a tree means whatever the order of the members in it.
* **`Reordered.hasKeys`**, **`Respects.holds`**, **`Respects.holdsOr`** — objects say the same in any
  order. -/

namespace TurnByTurn.Json

variable {α : Type} {t u : Node} {ts us : List Node} {ms ns : List (String × Node)} {key : String}
  {keys : List String} {Means : Node → α → Prop} {a default : α} {as : List α}

mutual

/-- **The trees that come from a tree by reordering members**, in the tree itself and in the trees
inside it. -/
inductive Reordered : Node → Node → Prop
  | refl {t : Node} : Reordered t t
  | array {ts us : List Node} : ReorderedElements ts us → Reordered (.array ts) (.array us)
  | object {ms ms' ns : List (String × Node)} : ms.Perm ms' → ReorderedMembers ms' ns →
      Reordered (.object ms) (.object ns)

/-- Elements stay where they are, and members are reordered inside them. -/
inductive ReorderedElements : List Node → List Node → Prop
  | nil : ReorderedElements [] []
  | cons {t u : Node} {ts us : List Node} : Reordered t u → ReorderedElements ts us →
      ReorderedElements (t :: ts) (u :: us)

/-- Members keep their keys, and members are reordered inside their values. -/
inductive ReorderedMembers : List (String × Node) → List (String × Node) → Prop
  | nil : ReorderedMembers [] []
  | cons {key : String} {t u : Node} {ms ns : List (String × Node)} : Reordered t u →
      ReorderedMembers ms ns → ReorderedMembers ((key, t) :: ms) ((key, u) :: ns)

end

/-! ## Members -/

theorem ReorderedMembers.keys_eq (h : ReorderedMembers ms ns) :
    ms.map Prod.fst = ns.map Prod.fst := by
  induction ms generalizing ns with
  | nil => cases h; rfl
  | cons m ms ih =>
      cases h with
      | cons _ hms => rw [List.map_cons, List.map_cons, ih hms]

theorem ReorderedMembers.exists_mem (h : ReorderedMembers ms ns) (ht : (key, t) ∈ ms) :
    ∃ u, (key, u) ∈ ns ∧ Reordered t u := by
  induction ms generalizing ns with
  | nil => cases ht
  | cons m ms ih =>
      cases h with
      | cons hu hms =>
          rcases List.mem_cons.mp ht with heq | htail
          · cases heq
            exact ⟨_, List.mem_cons_self, hu⟩
          · obtain ⟨u, hu, htu⟩ := ih hms htail
            exact ⟨u, List.mem_cons_of_mem _ hu, htu⟩

/-- What comes from an object is an object. -/
theorem Reordered.exists_object (h : Reordered (.object ms) u) : ∃ ns, u = .object ns := by
  cases h with
  | refl => exact ⟨ms, rfl⟩
  | object _ _ => exact ⟨_, rfl⟩

/-- Objects that are reordered have the same keys, in another order. -/
theorem Reordered.keys_perm (h : Reordered (.object ms) (.object ns)) :
    (ms.map Prod.fst).Perm (ns.map Prod.fst) := by
  cases h with
  | refl => exact .refl _
  | object hperm hms => exact hms.keys_eq ▸ hperm.map _

theorem Reordered.hasKeys (h : Reordered (.object ms) (.object ns)) (hkeys : HasKeys keys ms) :
    HasKeys keys ns := by
  have hperm := h.keys_perm
  refine ⟨hperm.nodup_iff.mp hkeys.nodup, fun n hn => ?_⟩
  obtain ⟨m, hm, hkey⟩ := List.mem_map.mp (hperm.mem_iff.mpr (List.mem_map_of_mem hn))
  exact hkey ▸ hkeys.known m hm

/-- Objects that are reordered have the same members, up to the order inside their values. -/
theorem Reordered.exists_mem (h : Reordered (.object ms) (.object ns)) (ht : (key, t) ∈ ms) :
    ∃ u, (key, u) ∈ ns ∧ Reordered t u := by
  cases h with
  | refl => exact ⟨t, ht, .refl⟩
  | object hperm hms => exact hms.exists_mem (hperm.mem_iff.mp ht)

/-! ## What trees mean -/

/-- **What trees mean whatever the order of the members in them.** -/
def Respects (Means : Node → α → Prop) : Prop :=
  ∀ ⦃t u a⦄, Reordered t u → Means t a → Means u a

/-- What a number means does not change. -/
theorem respects_number {P : Literal → α → Prop} : Respects fun t a => ∃ l, t = .number l ∧ P l a := by
  rintro t u a h ⟨l, rfl, ha⟩
  cases h
  exact ⟨l, rfl, ha⟩

theorem Node.isInt32_respects : Respects Node.IsInt32 := respects_number

theorem Node.isNatural64_respects : Respects Node.IsNatural64 := respects_number

theorem Node.isDouble_respects : Respects Node.IsDouble := respects_number

theorem Node.isText_respects : Respects Node.IsText := by
  rintro t u s h rfl
  cases h
  rfl

theorem Respects.isOptional (h : Respects Means) : Respects (Node.IsOptional Means) := by
  intro t u o hreordered ho
  cases o with
  | none =>
      obtain rfl : t = .null := ho
      cases hreordered
      rfl
  | some a => exact h hreordered ho

theorem Respects.forall₂ (h : Respects Means) (hreordered : ReorderedElements ts us)
    (hmeans : List.Forall₂ Means ts as) : List.Forall₂ Means us as := by
  induction hmeans generalizing us with
  | nil =>
      cases hreordered
      exact .nil
  | cons ha _ ih =>
      cases hreordered with
      | cons hu hus => exact .cons (h hu ha) (ih hus)

theorem Respects.isArrayOf (h : Respects Means) : Respects (Node.IsArrayOf Means) := by
  rintro t u as hreordered ⟨ts, rfl, has⟩
  cases hreordered with
  | refl => exact ⟨ts, rfl, has⟩
  | array hus => exact ⟨_, rfl, h.forall₂ hus has⟩

theorem Respects.holds (h : Respects Means) (hreordered : Reordered (.object ms) (.object ns))
    (ha : Holds ms key Means a) : Holds ns key Means a := by
  obtain ⟨t, ht, ha⟩ := ha
  obtain ⟨u, hu, htu⟩ := hreordered.exists_mem ht
  exact ⟨u, hu, h htu ha⟩

theorem Respects.holdsOr (h : Respects Means) (hreordered : Reordered (.object ms) (.object ns))
    (ha : HoldsOr default ms key Means a) : HoldsOr default ns key Means a := by
  obtain ha | ⟨hnone, rfl⟩ := ha
  · exact .inl (h.holds hreordered ha)
  · have hperm : (ms.map Prod.fst).Perm (ns.map Prod.fst) := hreordered.keys_perm
    refine .inr ⟨fun u hu => ?_, rfl⟩
    obtain ⟨⟨_, t⟩, ht, rfl⟩ := List.mem_map.mp (hperm.mem_iff.mpr (List.mem_map_of_mem hu))
    exact hnone t ht

end TurnByTurn.Json
