/-
**The distance of two positions.**

The distance of two positions is computed in coordinates, so each step of the computation has to
stay in their range: both differences, both of their sizes, and the sum.  Which step leaves the
range depends on the order of the two positions.  Whether any of them does depends on the exact
distance alone, which is the last and the greatest of all the results.

Main definitions:

* `RuleTiles.Position.apart` — the exact distance, as a natural number of any size.

Main results:

* `RuleTiles.Position.distance_eq_ok_iff` — a distance is computed when it fits in a coordinate;
* `RuleTiles.Position.apart_le_of_contains` — how far apart the positions of a board are;
* `RuleTiles.Position.distance_exact` — **the computation fails just when the exact distance does
  not fit**, for a pair of positions and for the same pair swapped, and never on a board.
-/

import RuleTiles.Grid
import RuleTiles.Proofs.Results

set_option relaxedAutoImplicit false
set_option autoImplicit false

namespace RuleTiles

/-- The integers in the range are those that are coordinates. -/
theorem Coord.exists_val_eq_iff {x : Int} :
    (∃ c : Coord, c.val = x) ↔ -2147483648 ≤ x ∧ x ≤ 2147483647 := by
  constructor
  · rintro ⟨c, rfl⟩
    exact ⟨c.lower, c.upper⟩
  · rintro ⟨hlower, hupper⟩
    exact ⟨⟨x, hlower, hupper⟩, rfl⟩

namespace Position

/-- The exact distance of two positions: how far their rows and how far their columns are apart. -/
def apart (p q : Position) : Nat :=
  (p.row.val - q.row.val).natAbs + (p.col.val - q.col.val).natAbs

theorem apart_comm (p q : Position) : p.apart q = q.apart p := by
  unfold apart
  omega

/-- The size of a difference is computed when it fits; then the difference itself fits. -/
theorem size_sub_eq_ok_iff {x : Int} {c : Coord} :
    (Coord.checked .sub x >>= fun d => Coord.checked .neg (d.val.natAbs : Int)) = .ok c ↔
      c.val = (x.natAbs : Int) := by
  simp only [bind_eq_ok_iff, Coord.checked_eq_ok_iff]
  constructor
  · rintro ⟨d, rfl, hc⟩
    exact hc
  · intro hc
    obtain ⟨d, hd⟩ := Coord.exists_val_eq_iff.2 (show -2147483648 ≤ x ∧ x ≤ 2147483647 by
      have hupper := c.upper
      omega)
    exact ⟨d, hd, by rw [hd, hc]⟩

/-- A distance is two sizes of differences and their sum. -/
theorem distance_eq (p q : Position) :
    p.distance q =
      (Coord.checked .sub (p.row.val - q.row.val) >>= fun d =>
        Coord.checked .neg (d.val.natAbs : Int)) >>= fun rows =>
      (Coord.checked .sub (p.col.val - q.col.val) >>= fun d =>
        Coord.checked .neg (d.val.natAbs : Int)) >>= fun cols =>
      Coord.checked .add (rows.val + cols.val) >>= fun total => pure total.val.toNat := by
  simp only [distance, bind_assoc]

/-- **A distance is computed when it fits in a coordinate**, and is then the exact one. -/
theorem distance_eq_ok_iff {p q : Position} {n : Nat} :
    p.distance q = .ok n ↔ p.apart q ≤ 2147483647 ∧ n = p.apart q := by
  rw [distance_eq]
  simp only [bind_eq_ok_iff (x := _ >>= _), size_sub_eq_ok_iff]
  simp only [bind_eq_ok_iff, Coord.checked_eq_ok_iff, pure_eq_ok_iff]
  unfold apart
  constructor
  · rintro ⟨rows, hrows, cols, hcols, total, htotal, rfl⟩
    have hupper := total.upper
    omega
  · rintro ⟨hfits, rfl⟩
    -- the sum is the greatest of the results, so the others fit when it does
    obtain ⟨rows, hrows⟩ := Coord.exists_val_eq_iff.2
      (show -2147483648 ≤ ((p.row.val - q.row.val).natAbs : Int) ∧ _ ≤ 2147483647 by omega)
    obtain ⟨cols, hcols⟩ := Coord.exists_val_eq_iff.2
      (show -2147483648 ≤ ((p.col.val - q.col.val).natAbs : Int) ∧ _ ≤ 2147483647 by omega)
    obtain ⟨total, htotal⟩ := Coord.exists_val_eq_iff.2
      (show -2147483648 ≤ rows.val + cols.val ∧ _ ≤ 2147483647 by omega)
    exact ⟨rows, hrows, cols, hcols, total, htotal, by omega⟩

/-- The computation fails just when the exact distance does not fit. -/
theorem exists_distance_eq_error_iff {p q : Position} :
    (∃ fault, p.distance q = .error fault) ↔ 2147483647 < p.apart q := by
  cases hdistance : p.distance q with
  | ok n =>
      have hfits := (distance_eq_ok_iff.1 hdistance).1
      simp only [reduceCtorEq, exists_false, false_iff]
      omega
  | error fault =>
      have hfits : ¬p.apart q ≤ 2147483647 := fun h => by
        rw [distance_eq_ok_iff.2 ⟨h, rfl⟩] at hdistance
        cases hdistance
      simp only [Except.error.injEq, exists_eq', true_iff]
      omega

/-- Two positions of a board are at most as far apart as its opposite corners. -/
theorem apart_le_of_contains {g : Grid} {p q : Position} (hp : g.contains p = true)
    (hq : g.contains q = true) : p.apart q + 2 ≤ g.width + g.height := by
  rw [Grid.contains_iff] at hp hq
  unfold apart
  omega

/-- **The computation of a distance fails just when the exact distance does not fit** in a
coordinate, and gives the exact distance otherwise.  So it fails for both orders of two positions or
for none, though maybe at another operation, and it never fails for two positions of a board. -/
theorem distance_exact (p q : Position) :
    ((∃ fault, p.distance q = .error fault) ↔ 2147483647 < p.apart q) ∧
    (∀ n, p.distance q = .ok n ↔ p.apart q ≤ 2147483647 ∧ n = p.apart q) ∧
    (((∃ fault, p.distance q = .error fault) ↔ ∃ fault, q.distance p = .error fault) ∧
      ∀ n, p.distance q = .ok n ↔ q.distance p = .ok n) ∧
    ∀ g : Grid, g.contains p = true ∧ g.contains q = true →
      p.distance q = .ok (p.apart q) ∧ p.apart q + 2 ≤ g.width + g.height := by
  refine ⟨exists_distance_eq_error_iff, fun n => distance_eq_ok_iff, ⟨?_, fun n => ?_⟩, ?_⟩
  · rw [exists_distance_eq_error_iff, exists_distance_eq_error_iff, apart_comm]
  · rw [distance_eq_ok_iff, distance_eq_ok_iff, apart_comm]
  · rintro g ⟨hp, hq⟩
    have hsides := apart_le_of_contains hp hq
    have hwidth := g.width_le
    have hheight := g.height_le
    unfold maxDimension at hwidth hheight
    exact ⟨distance_eq_ok_iff.2 ⟨by omega, rfl⟩, hsides⟩

/-- At the end of the range it depends on the order of the positions which operation fails. -/
example :
    (clamp (-2147483648) 0).distance (clamp 0 0) = .error .neg ∧
      (clamp 0 0).distance (clamp (-2147483648) 0) = .error .sub := by
  decide

end Position

end RuleTiles
