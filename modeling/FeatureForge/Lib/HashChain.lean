import Mathlib.Data.List.Basic

/-!
# Hash chains

Entries of any kind, each with the hash it carries, the hash of its predecessor,
and a digest recomputed from its contents.  A list of entries is `Chained` when
every entry points at the one before it and carries its own digest.

The digest is only assumed to determine an entry that carries it
(`Linking.Determined`).  Then a hash that occurs in two chains occurs at the same
position with the same history before it (`prefix_eq_of_hash_eq`): follow the
predecessor hashes down to the entry that has none.  Everything else is a reading
of this: two chains of one length and one last hash are equal
(`eq_of_last_hash_eq`), and a list that keeps an entry of a chain but changes
what comes before it is no chain (`not_chained_of_kept`).
-/

namespace FeatureForge

/-- What a chain reads of its entries. -/
structure Linking (α H : Type) where
  prev : α → Option H
  hash : α → H
  digest : α → H

namespace Linking

variable {α H : Type} (k : Linking α H)

/-- Entries with the same digest and the same hash are the same entry. -/
def Determined : Prop := ∀ a b, k.digest a = k.digest b → k.hash a = k.hash b → a = b

/-- Every entry points at the one before it, the first at `p`, and carries its
own digest. -/
def ChainedFrom : Option H → List α → Prop
  | _, [] => True
  | p, a :: as => k.prev a = p ∧ k.digest a = k.hash a ∧ ChainedFrom (some (k.hash a)) as

def Chained (as : List α) : Prop := k.ChainedFrom none as

/-- The hash the next entry has to point at. -/
def lastHash (p : Option H) (as : List α) : Option H := (as.getLast?.map k.hash).or p

theorem lastHash_cons (p : Option H) (a : α) (as : List α) :
    k.lastHash p (a :: as) = k.lastHash (some (k.hash a)) as := by
  cases as with
  | nil => rfl
  | cons b bs =>
    rw [lastHash, lastHash, List.getLast?_cons_cons]
    cases h : (b :: bs).getLast? with
    | none => simp at h
    | some c => rfl

theorem chainedFrom_append : ∀ (as bs : List α) (p : Option H),
    k.ChainedFrom p (as ++ bs) ↔ k.ChainedFrom p as ∧ k.ChainedFrom (k.lastHash p as) bs := by
  intro as bs
  induction as with
  | nil => intro p; simp [ChainedFrom, lastHash]
  | cons a as ih =>
    intro p
    rw [List.cons_append, ChainedFrom, ChainedFrom, ih, lastHash_cons]
    exact ⟨fun h => ⟨⟨h.1, h.2.1, h.2.2.1⟩, h.2.2.2⟩, fun h => ⟨h.1.1, h.1.2.1, h.1.2.2, h.2⟩⟩

theorem chained_concat {as : List α} {a : α} :
    k.Chained (as ++ [a]) ↔
      k.Chained as ∧ k.prev a = as.getLast?.map k.hash ∧ k.digest a = k.hash a := by
  rw [Chained, chainedFrom_append, lastHash, Option.or_none]
  simp only [ChainedFrom, and_true]
  exact Iff.rfl

variable {k}

theorem ChainedFrom.digest_eq : ∀ {as : List α} {p : Option H}, k.ChainedFrom p as →
    ∀ a ∈ as, k.digest a = k.hash a := by
  intro as
  induction as with
  | nil => intro _ _ a ha; cases ha
  | cons b bs ih =>
    intro p h a ha
    rcases List.mem_cons.mp ha with rfl | ha
    · exact h.2.1
    · exact ih h.2.2 a ha

theorem ChainedFrom.prev_succ : ∀ {as : List α} {p : Option H}, k.ChainedFrom p as →
    ∀ (i : Nat) (h : i + 1 < as.length), k.prev as[i + 1] = some (k.hash as[i]) := by
  intro as
  induction as with
  | nil => intro _ _ i hi; simp at hi
  | cons a as ih =>
    intro p h i hi
    cases i with
    | zero =>
      cases as with
      | nil => simp at hi
      | cons b bs => exact h.2.2.1
    | succ i => exact ih h.2.2 i (by simpa using hi)

theorem Chained.prev_zero {as : List α} (h : k.Chained as) (h0 : 0 < as.length) :
    k.prev as[0] = none := by
  cases as with
  | nil => simp at h0
  | cons a as => exact h.1

/-- **One hash, one history.**  A hash that two chains share stands at the same
position in both, and the chains agree up to it. -/
theorem prefix_eq_of_hash_eq (hk : k.Determined) {as bs : List α} (ha : k.Chained as)
    (hb : k.Chained bs) : ∀ (i j : Nat) (hi : i < as.length) (hj : j < bs.length),
      k.hash as[i] = k.hash bs[j] → i = j ∧ as.take (i + 1) = bs.take (j + 1) := by
  -- equal hashes are equal digests, so the two entries are one; its predecessor
  -- hash then either ends both chains here or names the entry one step down
  have hentry : ∀ (i j : Nat) (hi : i < as.length) (hj : j < bs.length),
      k.hash as[i] = k.hash bs[j] → as[i] = bs[j] := by
    intro i j hi hj h
    refine hk _ _ ?_ h
    rw [ChainedFrom.digest_eq ha _ (List.getElem_mem hi),
      ChainedFrom.digest_eq hb _ (List.getElem_mem hj), h]
  intro i
  induction i with
  | zero =>
    intro j hi hj h
    have he := hentry 0 j hi hj h
    cases j with
    | zero =>
      refine ⟨rfl, ?_⟩
      rw [List.take_one, List.take_one, List.head?_eq_getElem?, List.head?_eq_getElem?,
        List.getElem?_eq_getElem hi, List.getElem?_eq_getElem hj, he]
    | succ j =>
      have hprev := ha.prev_zero hi
      rw [he, ChainedFrom.prev_succ hb j hj] at hprev
      cases hprev
  | succ i ih =>
    intro j hi hj h
    have he := hentry (i + 1) j hi hj h
    have hprev := ChainedFrom.prev_succ ha i hi
    cases j with
    | zero =>
      rw [he, hb.prev_zero hj] at hprev
      cases hprev
    | succ j =>
      rw [he, ChainedFrom.prev_succ hb j hj] at hprev
      obtain ⟨rfl, htake⟩ := ih j (by omega) (by omega) (Option.some.inj hprev).symm
      refine ⟨rfl, ?_⟩
      rw [List.take_succ_eq_append_getElem hi, List.take_succ_eq_append_getElem hj, htake, he]

/-- **Commitment.**  Two chains of one length and one last hash are equal. -/
theorem eq_of_last_hash_eq (hk : k.Determined) {as bs : List α} (ha : k.Chained as)
    (hb : k.Chained bs) (hlen : as.length = bs.length)
    (hlast : as.getLast?.map k.hash = bs.getLast?.map k.hash) : as = bs := by
  cases hn : as.length with
  | zero =>
    have hn' : bs.length = 0 := by omega
    rw [List.length_eq_zero_iff.mp hn, List.length_eq_zero_iff.mp hn']
  | succ n =>
    have hi : n < as.length := by omega
    have hj : n < bs.length := by omega
    have hhash : k.hash as[n] = k.hash bs[n] := by
      have ea : as.length - 1 = n := by omega
      have eb : bs.length - 1 = n := by omega
      rw [List.getLast?_eq_getElem?, List.getLast?_eq_getElem?, ea, eb,
        List.getElem?_eq_getElem hi, List.getElem?_eq_getElem hj] at hlast
      exact Option.some.inj hlast
    have htake := (prefix_eq_of_hash_eq hk ha hb n n hi hj hhash).2
    rwa [List.take_of_length_le (by omega), List.take_of_length_le (by omega)] at htake

/-- **Tampering shows.**  A list in which the hash of an entry of a chain is kept
while its position or anything up to it differs is no chain. -/
theorem not_chained_of_kept (hk : k.Determined) {as bs : List α} (ha : k.Chained as) {i j : Nat}
    (hi : i < as.length) (hj : j < bs.length) (hkept : k.hash bs[j] = k.hash as[i])
    (hdiff : i ≠ j ∨ as.take (i + 1) ≠ bs.take (j + 1)) : ¬ k.Chained bs := by
  intro hb
  obtain ⟨hij, htake⟩ := prefix_eq_of_hash_eq hk ha hb i j hi hj hkept.symm
  rcases hdiff with h | h
  · exact h hij
  · exact h htake

end Linking

end FeatureForge
