/-
# `BootLink.Proofs.Link.Batches` — a link that stops and goes on

A build may link some units first and the others later, in as many batches as it likes.  The first
link goes through `asLinked`, which marks a unit that is fresh from the assembler; the later ones
find a program that is marked, and `asLinked` leaves it alone.  So

    link (ps ++ ls)  =  link ps, and then link (q :: ls) for its result q

with all that is in a program: code, data, labels in their order, tags, name and sources.  Faults
are in the equation as well.  What stops the first batch stops the whole, and what stops a later
one is what the whole would have met at that unit.

Two units are one merge (`link_pair`).  It does not count whether the first was marked before the
merge or by it (`merge_asLinked`), although a single unit that is marked is not pinned, and one that
comes out of a merge is.
-/
import BootLink.Proofs.Link.Run

namespace BootLink

namespace Program

variable {ps : List Program} {p q l r : Program}

/-! ## What is linked already -/

theorem isLinked_asLinked (p : Program) : p.asLinked.isLinked = true := by
  unfold asLinked
  split
  · rfl
  · next home => rw [isLinked, home]

/-- A program that is linked is not marked again. -/
theorem asLinked_of_isLinked (h : p.isLinked = true) : p.asLinked = p := by
  unfold asLinked
  split
  · next home => rw [isLinked, home] at h; exact nomatch h
  · rfl

theorem isLinked_merge (h : merge p l = .ok r) : r.isLinked = true := by
  obtain ⟨_, _, rfl⟩ := merge_eq_ok_iff.mp h
  rfl

theorem Linked.isLinked (h : Linked ps q) : q.isLinked = true := by
  cases h with
  | first p => exact isLinked_asLinked p
  | behind _ hm => exact isLinked_merge hm

/-! ## Batches -/

/-- A link goes on from its result as if it had not stopped. -/
theorem Linked.link_cons (h : Linked ps q) (ls : List Program) :
    link (q :: ls) = link (ps ++ ls) := by
  calc link (q :: ls)
      = ls.foldlM merge q.asLinked := rfl
    _ = ls.foldlM merge q := by rw [asLinked_of_isLinked h.isLinked]
    _ = (link ps).bind fun q => ls.foldlM merge q := by rw [link_eq_ok_iff.mpr h]; rfl
    _ = link (ps ++ ls) := (link_append h.ne_nil ls).symm

/-- One more batch. -/
theorem link_append_eq_bind (ne : ps ≠ []) (ls : List Program) :
    link (ps ++ ls) = (link ps).bind fun q => link (q :: ls) := by
  cases found : link ps with
  | error e => rw [link_append ne, found]; rfl
  | ok q => exact ((link_eq_ok_iff.mp found).link_cons ls).symm

/-- Any number of them, of any sizes, the empty ones included. -/
theorem link_append_flatten (ne : ps ≠ []) (batches : List (List Program)) :
    link (ps ++ batches.flatten) =
      (link ps).bind fun q => batches.foldlM (fun q ls => link (q :: ls)) q := by
  induction batches generalizing ps with
  | nil =>
      rw [List.flatten_nil, List.append_nil]
      cases link ps with
      | error e => rfl
      | ok q => rfl
  | cons ls batches ih =>
      -- the next batch joins the units that are linked
      rw [List.flatten_cons, ← List.append_assoc, ih (List.append_ne_nil_of_left_ne_nil ne ls),
        link_append_eq_bind ne]
      cases link ps with
      | error e => rfl
      | ok q => rw [Except.bind, Except.bind, List.foldlM_cons]; rfl

/-! ## Two units -/

/-- Two units are one merge. -/
theorem link_pair (p l : Program) : link [p, l] = merge p l := by
  rw [← merge_asLinked]
  show [l].foldlM merge p.asLinked = _
  rw [List.foldlM_cons]
  cases merge p.asLinked l with
  | error e => rfl
  | ok r => rfl

/-- **A link in batches is a link at once.**  After some first units, others may be linked to the
result in one more batch or in many, and it is the same program or the same fault.  And for two
units all three ways agree: to merge them, to mark the first and merge, and to link them. -/
theorem link_in_batches (first : Program) (rest : List Program) :
    (∀ ls, link (first :: rest ++ ls) =
      (link (first :: rest)).bind fun q => link (q :: ls)) ∧
    (∀ batches : List (List Program), link (first :: rest ++ batches.flatten) =
      (link (first :: rest)).bind fun q => batches.foldlM (fun q ls => link (q :: ls)) q) ∧
    (∀ l, merge first.asLinked l = merge first l ∧ link [first, l] = merge first l) := by
  have ne : first :: rest ≠ [] := List.cons_ne_nil _ _
  refine ⟨?_, ?_, ?_⟩
  · intro ls
    exact link_append_eq_bind ne ls
  · intro batches
    exact link_append_flatten ne batches
  · intro l
    exact ⟨merge_asLinked first l, link_pair first l⟩

end Program

end BootLink
