import LintHub.Proofs.View.Touched
import Mathlib.Order.Compare

set_option autoImplicit false

/-!
# Ordered sets of paths

The order of paths is total, and two paths are at the same place in it exactly if they name the same
file (`instance : Std.TransCmp Path.orderOption`). A set of paths into which paths are inserted one
after the other is therefore strictly ordered: no file is named in it twice
(`pairwise_before_touchedPaths`, `pairwise_before_extendPathSet`).
-/

namespace LintHub

namespace PathComponent

/-- The bytes of a name; other components have none. -/
def nameBytes : PathComponent → List UInt8
  | .name n => n
  | _ => []

/-- Components are compared by their kinds and then by their bytes. -/
theorem order_eq_compareLex :
    order = compareLex (compareOn PathComponent.rank) (compareOn nameBytes) := by
  funext a b
  cases a <;> cases b <;> rfl

instance : Std.TransCmp order := by
  rw [order_eq_compareLex]
  infer_instance

end PathComponent

namespace Path

theorem orderComponents_eq_compareLex :
    orderComponents = List.compareLex PathComponent.order := by
  funext l m
  induction l generalizing m with
  | nil => cases m <;> rfl
  | cons a l ih =>
    cases m with
    | nil => rfl
    | cons b m => rw [orderComponents, List.compareLex_cons_cons, ih]

instance : Std.TransCmp orderComponents := by
  rw [orderComponents_eq_compareLex]
  infer_instance

instance : Std.TransCmp orderOption where
  eq_swap := by
    rintro (_ | p) (_ | q)
    case some.some =>
      show orderComponents _ _ = (orderComponents _ _).swap
      exact Std.OrientedCmp.eq_swap
    all_goals rfl
  isLE_trans := by
    rintro (_ | p) (_ | q) (_ | r) pq qr
    case some.some.some =>
      show (orderComponents _ _).isLE = true
      exact Std.TransCmp.isLE_trans pq qr
    case some.none.some => exact nomatch pq
    all_goals first | rfl | assumption

/-- A path stands before another one in their order. -/
def Before (p q : Option Path) : Prop := orderOption p q = .lt

theorem Before.trans {p q r : Option Path} (pq : Before p q) (qr : Before q r) : Before p r :=
  Std.TransCmp.lt_trans pq qr

/-- Where a path stands is a matter of its place only. -/
theorem before_congr {p p' q q' : Option Path} (hp : place p = place p') (hq : place q = place q') :
    Before p q ↔ Before p' q' := by
  rw [Before, Before, Std.TransCmp.congr_left (orderOption_eq_iff.2 hp),
    Std.TransCmp.congr_right (orderOption_eq_iff.2 hq)]

end Path

namespace Delta

open LintHub.Path

variable {merge : Option Path → Option Path → Option Path}

/-- Inserting a path keeps a set of paths ordered. -/
theorem pairwise_before_insertPath (either : ∀ p q, merge p q = p ∨ merge p q = q) (p : Option Path)
    {l : List (Option Path)} (ordered : l.Pairwise Before) :
    (insertPath merge p l).Pairwise Before := by
  induction l with
  | nil => exact List.pairwise_singleton _ _
  | cons q rest ih =>
    obtain ⟨first, others⟩ := List.pairwise_cons.1 ordered
    unfold insertPath
    split
    case h_1 before =>
      refine List.pairwise_cons.2 ⟨fun r hr => ?_, ordered⟩
      rcases List.mem_cons.1 hr with rfl | hr
      · exact before
      · exact Before.trans before (first r hr)
    case h_2 same =>
      -- Whichever of the two paths is kept stands at the place of the one held.
      have kept : place (merge q p) = place q := by
        rcases either q p with e | e
        · rw [e]
        · rw [e, orderOption_eq_iff.1 same]
      exact List.pairwise_cons.2 ⟨fun r hr => (before_congr kept rfl).2 (first r hr), others⟩
    case h_3 after =>
      refine List.pairwise_cons.2 ⟨fun r hr => ?_, ih others⟩
      have place := (mem_places_insertPath either p rest (place r)).1 (List.mem_map_of_mem hr)
      rcases place with e | e
      · exact (before_congr rfl e).2 (Std.OrientedCmp.gt_iff_lt.1 after)
      · obtain ⟨s, hs, e⟩ := List.mem_map.1 e
        exact (before_congr rfl e).1 (first s hs)

theorem pairwise_before_insertAll (either : ∀ p q, merge p q = p ∨ merge p q = q)
    (l : List (Option Path)) {set : List (Option Path)} (ordered : set.Pairwise Before) :
    (l.foldl (fun acc p => insertPath merge p acc) set).Pairwise Before := by
  induction l generalizing set with
  | nil => exact ordered
  | cons p rest ih => exact ih (pairwise_before_insertPath either p ordered)

theorem pairwise_before_touchedPaths (d : Delta) : d.touchedPaths.Pairwise Before :=
  pairwise_before_insertAll (fun _ _ => .inr rfl) _ List.Pairwise.nil

theorem pairwise_before_extendPathSet {set : List (Option Path)} (ordered : set.Pairwise Before)
    (l : List (Option Path)) : (extendPathSet set l).Pairwise Before :=
  pairwise_before_insertAll (fun _ _ => .inl rfl) l ordered

end Delta

end LintHub
