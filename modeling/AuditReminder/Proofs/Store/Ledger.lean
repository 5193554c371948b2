/-
Ledgers.

Both stores keep a claim as a row for its pair of an audit and a tier: the store in memory keeps a
record, the database a row of texts.  `Ledger` is what they have in common, and `Backend.Keeps`
says what the four operations of a pass do to it:

    claim    adds a row at the end if the pair has none, and says whether it did
    release  removes the rows of the pair
    both     leave the rows alone when they answer a fault

`Takes` is the same law read off an event, with the faults put in that a store may meet at any
moment (`Backend.Keeps.takes`).  Everything proved of claims further on uses `Takes` alone.
-/
import AuditReminder.Proofs.Pass.Trace

namespace AuditReminder

/-- An audit and a tier: what is claimed, sent and given back. -/
abbrev Pair := AuditId × String

/-- The pair that a request is for. -/
def Request.pair (request : Request) : Pair := (request.auditId, request.tier)

/-- The pair that an outcome tells of. -/
def Outcome.pair (o : Outcome) : Pair := (o.auditId, o.tier)

/-- How a store with states `σ` keeps claims: rows in the order in which they came, each of one
pair.  `entry p now` is the row of a claim of `p` at `now`. -/
structure Ledger (σ : Type) where
  Row : Type
  rows : σ → List Row
  pair : Row → Pair
  entry : Pair → Instant → Row
  pair_entry (p : Pair) (now : Instant) : pair (entry p now) = p

namespace Ledger

variable {σ : Type} (l : Ledger σ) {rows rows' : List l.Row} {p q : Pair} {now : Instant}

/-- Some row is of the pair. -/
def Has (rows : List l.Row) (p : Pair) : Prop := ∃ row ∈ rows, l.pair row = p

/-- The rows of the pair. -/
def rowsOf (rows : List l.Row) (p : Pair) : List l.Row := rows.filter fun row => l.pair row == p

/-- The rows of all other pairs. -/
def without (rows : List l.Row) (p : Pair) : List l.Row := rows.filter fun row => l.pair row != p

/-- A search by audit and tier finds whether the pair has a row. -/
theorem any_pair_iff {id : AuditId} {tier : String} :
    (rows.any fun row => (l.pair row).1 == id && (l.pair row).2 == tier) = true ↔
      l.Has rows (id, tier) := by
  simp only [Has, List.any_eq_true, Bool.and_eq_true, beq_iff_eq, Prod.ext_iff]

/-- The tiers of the rows of an audit. -/
theorem mem_tiers_iff {id : AuditId} {tier : String} :
    tier ∈ (rows.filter fun row => (l.pair row).1 == id).map (fun row => (l.pair row).2) ↔
      l.Has rows (id, tier) := by
  constructor
  · intro hmem
    obtain ⟨row, hrow, rfl⟩ := List.mem_map.mp hmem
    obtain ⟨hrow, hid⟩ := List.mem_filter.mp hrow
    exact ⟨row, hrow, Prod.ext (eq_of_beq hid) rfl⟩
  · rintro ⟨row, hrow, hpair⟩
    refine List.mem_map.mpr ⟨row, List.mem_filter.mpr ⟨hrow, ?_⟩, congrArg Prod.snd hpair⟩
    exact beq_iff_eq.mpr (congrArg Prod.fst hpair)

theorem has_append : l.Has (rows ++ rows') p ↔ l.Has rows p ∨ l.Has rows' p := by
  simp only [Has, List.mem_append, or_and_right, exists_or]

theorem has_append_entry : l.Has (rows ++ [l.entry q now]) p ↔ l.Has rows p ∨ p = q := by
  rw [has_append]
  simp only [Has, List.mem_singleton, exists_eq_left, l.pair_entry]
  exact or_congr_right eq_comm

theorem has_without : l.Has (l.without rows q) p ↔ l.Has rows p ∧ p ≠ q := by
  constructor
  · rintro ⟨row, hrow, rfl⟩
    obtain ⟨hmem, hne⟩ := List.mem_filter.mp hrow
    exact ⟨⟨row, hmem, rfl⟩, by simpa using hne⟩
  · rintro ⟨⟨row, hmem, rfl⟩, hne⟩
    exact ⟨row, List.mem_filter.mpr ⟨hmem, by simpa using hne⟩, rfl⟩

/-- Releasing what is not there changes nothing. -/
theorem without_of_not_has (h : ¬ l.Has rows p) : l.without rows p = rows := by
  refine List.filter_eq_self.mpr fun row hrow => ?_
  have hne : l.pair row ≠ p := fun he => h ⟨row, hrow, he⟩
  simpa using hne

/-- A claim that is given back at once leaves the rows as they were. -/
theorem without_append_entry (h : ¬ l.Has rows p) :
    l.without (rows ++ [l.entry p now]) p = rows := by
  have hlast : l.without [l.entry p now] p = [] := by simp [without, l.pair_entry]
  calc l.without (rows ++ [l.entry p now]) p
      = l.without rows p ++ l.without [l.entry p now] p := List.filter_append _ _
    _ = rows ++ [] := by rw [l.without_of_not_has h, hlast]
    _ = rows := List.append_nil rows

/-- The rows of one pair are not touched when another is claimed. -/
theorem rowsOf_append_entry (h : p ≠ q) :
    l.rowsOf (rows ++ [l.entry q now]) p = l.rowsOf rows p := by
  have hlast : l.rowsOf [l.entry q now] p = [] := by simp [rowsOf, l.pair_entry, h.symm]
  calc l.rowsOf (rows ++ [l.entry q now]) p
      = l.rowsOf rows p ++ l.rowsOf [l.entry q now] p := List.filter_append _ _
    _ = l.rowsOf rows p := by rw [hlast, List.append_nil]

/-- The rows of one pair are not touched when another is released. -/
theorem rowsOf_without (h : p ≠ q) : l.rowsOf (l.without rows q) p = l.rowsOf rows p := by
  rw [rowsOf, rowsOf, without, List.filter_filter]
  refine List.filter_congr fun row _ => ?_
  by_cases hp : l.pair row = p
  · simp [hp, h]
  · simp [hp]

/-- What an event does to the rows. -/
def Takes (rows : List l.Row) : Event → List l.Row → Prop
  | ⟨.claim id tier now, .ok true⟩, after =>
      ¬ l.Has rows (id, tier) ∧ after = rows ++ [l.entry (id, tier) now]
  | ⟨.claim id tier _, .ok false⟩, after => l.Has rows (id, tier) ∧ after = rows
  | ⟨.release id tier, .ok _⟩, after => after = l.without rows (id, tier)
  | _, after => after = rows

end Ledger

/-- A backend keeps its claims in a ledger. -/
structure Backend.Keeps {σ : Type} (b : Backend σ) (l : Ledger σ) : Prop where
  claim_true {s s' : σ} {id : AuditId} {tier : String} {now : Instant} :
    b.claim s id tier now = (.ok true, s') →
      ¬ l.Has (l.rows s) (id, tier) ∧ l.rows s' = l.rows s ++ [l.entry (id, tier) now]
  claim_false {s s' : σ} {id : AuditId} {tier : String} {now : Instant} :
    b.claim s id tier now = (.ok false, s') →
      l.Has (l.rows s) (id, tier) ∧ l.rows s' = l.rows s
  claim_error {s s' : σ} {id : AuditId} {tier : String} {now : Instant} {fault : StoreFault} :
    b.claim s id tier now = (.error fault, s') → l.rows s' = l.rows s
  release_ok {s s' : σ} {id : AuditId} {tier : String} :
    b.release s id tier = (.ok (), s') → l.rows s' = l.without (l.rows s) (id, tier)
  release_error {s s' : σ} {id : AuditId} {tier : String} {fault : StoreFault} :
    b.release s id tier = (.error fault, s') → l.rows s' = l.rows s

/-- What a backend reads is what its ledger holds, and the audits it lists do not change when pairs
are claimed or released. -/
structure Backend.Shows {σ : Type} (b : Backend σ) (l : Ledger σ) : Prop where
  sentTiers {s : σ} {id : AuditId} {sent : NameSet} :
    b.sentTiers s id = .ok sent → ∀ tier, tier ∈ sent ↔ l.Has (l.rows s) (id, tier)
  claim_listOpen (s : σ) (id : AuditId) (tier : String) (now : Instant) :
    b.listOpen (b.claim s id tier now).2 = b.listOpen s
  release_listOpen (s : σ) (id : AuditId) (tier : String) :
    b.listOpen (b.release s id tier).2 = b.listOpen s

namespace Backend

variable {σ : Type} {b : Backend σ} {l : Ledger σ} {s s' : σ} {e : Event} {trace : List Event}

/-- One event on a store is one event on its ledger. -/
theorem Keeps.takes (h : b.Keeps l) (he : b.Serves s e s') :
    l.Takes (l.rows s) e (l.rows s') := by
  cases he with
  | listed | read | delivered | unreleased | noted => rfl
  | unclaimed => rfl
  | claimed id tier now =>
      rcases hc : b.claim s id tier now with ⟨fault | claimed, s'⟩
      · exact h.claim_error hc
      · cases claimed
        · exact h.claim_false hc
        · exact h.claim_true hc
  | released id tier =>
      rcases hr : b.release s id tier with ⟨fault | done, s'⟩
      · exact h.release_error hr
      · exact h.release_ok hr

theorem Shows.listOpen_serves (h : b.Shows l) (he : b.Serves s e s') :
    b.listOpen s' = b.listOpen s := by
  cases he with
  | claimed id tier now => exact h.claim_listOpen s id tier now
  | released id tier => exact h.release_listOpen s id tier
  | listed | read | unclaimed | delivered | unreleased | noted => rfl

/-- No pass changes which audits are listed. -/
theorem Shows.listOpen_servesAll (h : b.Shows l) (ht : b.ServesAll s trace s') :
    b.listOpen s' = b.listOpen s :=
  ht.invariant (P := fun t => b.listOpen t = b.listOpen s)
    (fun _ he ht => (h.listOpen_serves he).trans ht) rfl

end Backend

end AuditReminder
