import Mathlib.Data.Finset.Card
import Mathlib.Data.Finset.Image
import Mathlib.Data.Fintype.Card
import Mathlib.Logic.Relation
import Mathlib.Order.WellFounded
import Mathlib.Data.Fintype.EquivFin

/-!
# Acyclic relations on finite sets

`r a b` is read "`a` comes before `b`".  On a finite set an acyclic relation has a
first element (`exists_first`), hence an order of all elements that respects it
(`exists_topological_order`), and every element leads to one without successors in
the set (`exists_sink`).

`collect` is the depth-first search that gathers what an element depends on,
directly or through others; it marks what it has seen so that it ends on cyclic
relations too.  `mem_collect` says that it gathers exactly the transitive
dependencies, given as much fuel as there are elements.
-/

namespace FeatureForge

namespace Dag

variable {α : Type}

/-- No element comes, through others, before itself. -/
def Acyclic (r : α → α → Prop) : Prop := ∀ a, ¬ Relation.TransGen r a a

variable {r : α → α → Prop}

theorem Acyclic.mono {r' : α → α → Prop} (h : Acyclic r) (hr : ∀ a b, r' a b → r a b) :
    Acyclic r' :=
  fun a ha => h a (Relation.TransGen.mono hr a a ha)

theorem Acyclic.swap (h : Acyclic r) : Acyclic (Function.swap r) :=
  fun a ha => h a (Relation.transGen_swap.mp ha)

/-- Steps that go up in rank make no cycle. -/
theorem acyclic_of_rank (rank : α → Nat) (h : ∀ a b, r a b → rank a < rank b) : Acyclic r := by
  have hpath : ∀ a b, Relation.TransGen r a b → rank a < rank b := by
    intro a b hab
    induction hab with
    | single hab => exact h _ _ hab
    | tail _ hbc ih => exact ih.trans (h _ _ hbc)
  exact fun a ha => Nat.lt_irrefl _ (hpath a a ha)

/-- Steps to an element without successors add no cycle. -/
theorem Acyclic.add_end {r' : α → α → Prop} (h : Acyclic r) {l : α}
    (hr : ∀ a b, r' a b → r a b ∨ b = l) (hl : ∀ b, ¬ r' l b) : Acyclic r' := by
  intro a ha
  have hpath : ∀ b, Relation.TransGen r' a b → Relation.TransGen r a b ∨ b = l := by
    intro b hb
    induction hb with
    | single h => exact (hr _ _ h).imp_left .single
    | tail _ hbc ih =>
      rcases ih with ih | rfl
      · exact (hr _ _ hbc).imp_left ih.tail
      · exact absurd hbc (hl _)
  rcases hpath a ha with hcycle | rfl
  · exact h a hcycle
  · obtain ⟨b, hab, _⟩ := Relation.TransGen.head'_iff.mp ha
    exact hl b hab

/-- A nonempty finite set has an element that none of the set comes before. -/
theorem exists_first (h : Acyclic r) {s : Finset α} (hs : s.Nonempty) :
    ∃ m ∈ s, ∀ x ∈ s, ¬ r x m := by
  let before : s → s → Prop := fun x y => Relation.TransGen r x.1 y.1
  have htrans : IsTrans s before := ⟨fun _ _ _ => Relation.TransGen.trans⟩
  have hirrefl : Std.Irrefl before := ⟨fun x hx => h x.1 hx⟩
  have hwf : WellFounded before := Finite.wellFounded_of_trans_of_irrefl before
  obtain ⟨a, ha⟩ := hs
  obtain ⟨m, _, hm⟩ := hwf.has_min Set.univ ⟨⟨a, ha⟩, trivial⟩
  exact ⟨m.1, m.2, fun x hx hr => hm ⟨x, hx⟩ trivial (.single hr)⟩

/-- **A topological order.**  The elements of a finite set can be listed so that none
comes before an earlier one. -/
theorem exists_topological_order [DecidableEq α] (h : Acyclic r) :
    ∀ (n : Nat) (s : Finset α), s.card = n →
      ∃ l : List α, l.Nodup ∧ (∀ a, a ∈ l ↔ a ∈ s) ∧ l.Pairwise fun a b => ¬ r b a := by
  intro n
  induction n with
  | zero =>
    intro s hs
    rw [Finset.card_eq_zero.mp hs]
    exact ⟨[], List.nodup_nil, fun a => by simp, List.Pairwise.nil⟩
  | succ n ih =>
    intro s hs
    have hne : s.Nonempty := by
      rw [← Finset.card_pos]
      omega
    obtain ⟨m, hm, hfirst⟩ := exists_first h hne
    have hcard : (s.erase m).card = n := by
      rw [Finset.card_erase_of_mem hm]
      omega
    obtain ⟨l, hnodup, hmem, hpair⟩ := ih (s.erase m) hcard
    have hml : m ∉ l := fun h => (Finset.mem_erase.mp ((hmem m).mp h)).1 rfl
    refine ⟨m :: l, List.nodup_cons.mpr ⟨hml, hnodup⟩, fun a => ?_, ?_⟩
    · rw [List.mem_cons, hmem, Finset.mem_erase]
      constructor
      · rintro (rfl | ⟨_, ha⟩)
        · exact hm
        · exact ha
      · intro ha
        by_cases ham : a = m
        · exact Or.inl ham
        · exact Or.inr ⟨ham, ha⟩
    · refine List.pairwise_cons.mpr ⟨fun a ha => ?_, hpair⟩
      exact hfirst a (Finset.mem_erase.mp ((hmem a).mp ha)).2

/-- **Every element leads to a sink.** -/
theorem exists_sink (h : Acyclic r) (s : Finset α) {a : α} (ha : a ∈ s) :
    ∃ m ∈ s, Relation.ReflTransGen r a m ∧ ∀ x ∈ s, ¬ r m x := by
  classical
  let t := s.filter fun x => Relation.ReflTransGen r a x
  have hat : a ∈ t := Finset.mem_filter.mpr ⟨ha, .refl⟩
  obtain ⟨m, hm, hlast⟩ := exists_first h.swap ⟨a, hat⟩
  obtain ⟨hms, ham⟩ := Finset.mem_filter.mp hm
  refine ⟨m, hms, ham, fun x hx hmx => ?_⟩
  exact hlast x (Finset.mem_filter.mpr ⟨hx, ham.tail hmx⟩) hmx

/-! ### Collecting dependencies -/

variable [DecidableEq α] (direct : α → List α)

/-- One dependency of a search: gathered, and searched in turn, if it is new. -/
def visit (search : α → Finset α → Finset α × Finset α) (found : Finset α × Finset α) (d : α) :
    Finset α × Finset α :=
  if d ∈ found.2 then found
  else
    let inner := search d (insert d found.2)
    (insert d found.1 ∪ inner.1, inner.2)

/-- What `a` depends on and has not been seen, and all that has been seen then. -/
def collect : Nat → α → Finset α → Finset α × Finset α
  | 0, _, seen => (∅, seen)
  | fuel + 1, a, seen => (direct a).foldl (visit (collect fuel)) (∅, seen)

/-- `b` is a direct dependency of `a`. -/
def DependsOn (a b : α) : Prop := b ∈ direct a

/-- What a search of the dependencies `ds` from `seen` on has found: it has seen what it
gathered, all of `ds`, and the dependencies of all it gathered. -/
structure Found (ds : List α) (seen : Finset α) (found : Finset α × Finset α) : Prop where
  seen_eq : ∀ x, x ∈ found.2 ↔ x ∈ seen ∨ x ∈ found.1
  done : ∀ d ∈ ds, d ∈ found.2
  closed : ∀ x ∈ found.1, ∀ y ∈ direct x, y ∈ found.2
  reached : ∀ x ∈ found.1, ∃ d ∈ ds, Relation.ReflTransGen (DependsOn direct) d x

section

omit [DecidableEq α]

variable {direct}

theorem Found.nil (seen : Finset α) : Found direct [] seen (∅, seen) where
  seen_eq x := by simp
  done d hd := by cases hd
  closed x hx := by simp at hx
  reached x hx := by simp at hx

theorem Found.skip {ds : List α} {seen : Finset α} {found : Finset α × Finset α} {d : α}
    (h : Found direct ds seen found) (hd : d ∈ found.2) :
    Found direct (ds ++ [d]) seen found where
  seen_eq := h.seen_eq
  done x hx := by
    rcases List.mem_append.mp hx with hx | hx
    · exact h.done x hx
    · rw [List.mem_singleton.mp hx]; exact hd
  closed := h.closed
  reached x hx := by
    obtain ⟨e, he, hex⟩ := h.reached x hx
    exact ⟨e, List.mem_append_left _ he, hex⟩

end

variable {direct}

theorem Found.enter {ds : List α} {seen : Finset α} {found inner : Finset α × Finset α} {d : α}
    (h : Found direct ds seen found)
    (hi : Found direct (direct d) (insert d found.2) inner) :
    Found direct (ds ++ [d]) seen (insert d found.1 ∪ inner.1, inner.2) where
  seen_eq x := by
    rw [hi.seen_eq, Finset.mem_insert, h.seen_eq, Finset.mem_union, Finset.mem_insert]
    tauto
  done x hx := by
    rw [hi.seen_eq, Finset.mem_insert]
    rcases List.mem_append.mp hx with hx | hx
    · exact Or.inl (Or.inr (h.done x hx))
    · exact Or.inl (Or.inl (List.mem_singleton.mp hx))
  closed x hx y hy := by
    rcases Finset.mem_union.mp hx with hx | hx
    · rcases Finset.mem_insert.mp hx with rfl | hx
      · exact hi.done y hy
      · rw [hi.seen_eq, Finset.mem_insert]
        exact Or.inl (Or.inr (h.closed x hx y hy))
    · exact hi.closed x hx y hy
  reached x hx := by
    rcases Finset.mem_union.mp hx with hx | hx
    · rcases Finset.mem_insert.mp hx with rfl | hx
      · exact ⟨x, by simp, .refl⟩
      · obtain ⟨e, he, hex⟩ := h.reached x hx
        exact ⟨e, List.mem_append_left _ he, hex⟩
    · obtain ⟨e, he, hex⟩ := hi.reached x hx
      exact ⟨d, by simp, .head he hex⟩

/-- With fuel for every element not seen yet, a search finds what it is to find. -/
theorem found_collect {bound : Finset α} (hu : ∀ a, ∀ b ∈ direct a, b ∈ bound) :
    ∀ (fuel : Nat) (a : α) (seen : Finset α), (bound \ seen).card < fuel →
      Found direct (direct a) seen (collect direct fuel a seen) := by
  intro fuel
  induction fuel with
  | zero => intro a seen h; omega
  | succ fuel ih =>
    intro a seen hfuel
    -- the fold over the dependencies, those done so far in front
    have hfold : ∀ (ds done : List α) (found : Finset α × Finset α), (∀ d ∈ ds, d ∈ bound) →
        Found direct done seen found →
        Found direct (done ++ ds) seen (ds.foldl (visit (collect direct fuel)) found) := by
      intro ds
      induction ds with
      | nil => intro done found _ h; rwa [List.append_nil]
      | cons d ds ihd =>
        intro done found hds h
        have hrest : ∀ e ∈ ds, e ∈ bound := fun e he => hds e (List.mem_cons_of_mem _ he)
        have happ : done ++ d :: ds = (done ++ [d]) ++ ds := by simp
        rw [List.foldl_cons, happ]
        refine ihd _ _ hrest ?_
        by_cases hd : d ∈ found.2
        · rw [visit, if_pos hd]
          exact h.skip hd
        · rw [visit, if_neg hd]
          refine h.enter (ih d (insert d found.2) ?_)
          -- the new dependency is one element less to see
          have hdu : d ∈ bound \ found.2 := Finset.mem_sdiff.mpr ⟨hds d (by simp), hd⟩
          have hlt : (bound \ insert d found.2).card < (bound \ found.2).card := by
            refine Finset.card_lt_card ⟨fun x hx => ?_, fun hsub => ?_⟩
            · rw [Finset.mem_sdiff, Finset.mem_insert, not_or] at hx
              exact Finset.mem_sdiff.mpr ⟨hx.1, hx.2.2⟩
            · have := hsub hdu
              simp at this
          have hle : (bound \ found.2).card ≤ (bound \ seen).card := by
            refine Finset.card_le_card fun x hx => ?_
            rw [Finset.mem_sdiff, h.seen_eq, not_or] at hx
            exact Finset.mem_sdiff.mpr ⟨hx.1, hx.2.1⟩
          omega
    have := hfold (direct a) [] (∅, seen) (hu a) (.nil seen)
    rwa [List.nil_append] at this

/-- **The search gathers exactly the transitive dependencies.** -/
theorem mem_collect {bound : Finset α} (hu : ∀ a, ∀ b ∈ direct a, b ∈ bound) {fuel : Nat}
    (hfuel : bound.card < fuel) (a b : α) :
    b ∈ (collect direct fuel a ∅).1 ↔ Relation.TransGen (DependsOn direct) a b := by
  have hfound := found_collect hu fuel a ∅ (by simpa using hfuel)
  have hseen : ∀ x, x ∈ (collect direct fuel a ∅).2 ↔ x ∈ (collect direct fuel a ∅).1 := by
    intro x
    rw [hfound.seen_eq]
    simp
  constructor
  · intro hb
    obtain ⟨d, hd, hdb⟩ := hfound.reached b hb
    exact Relation.TransGen.head' hd hdb
  · intro hab
    induction hab with
    | single h => exact (hseen _).mp (hfound.done _ h)
    | tail _ h ih => exact (hseen _).mp (hfound.closed _ ih _ h)

end Dag

end FeatureForge
