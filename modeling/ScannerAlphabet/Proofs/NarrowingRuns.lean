import ScannerAlphabet.Proofs.Coarsest

/-!
# Runs that never widen the alphabet

As long as no request makes the alphabet larger, a run can forget code points but learns no new
ones, and clipping does not bring together what a set has separated. So what is known about
refinements of a fixed alphabet stays true of the code points that are left: `sameClass_run`
says that two of them share a class exactly when they did at the start and no effective set of
the whole run tells them apart. Requests that are refused may stand anywhere in the run.
-/
namespace ScannerAlphabet

namespace Partition
variable {p q : Partition} {c d m : Nat}

theorem sameClass_clippedTo (hc : c ≤ m) (hd : d ≤ m) :
    (p.clippedTo m).SameClass c d ↔ p.SameClass c d := by
  constructor
  · rintro ⟨t, ht, hct, hdt⟩
    obtain ⟨s, hs, rfl⟩ := List.mem_map.mp ht
    exact ⟨s, hs, (mem_clipped.mp hct).1, (mem_clipped.mp hdt).1⟩
  · rintro ⟨s, hs, hcs, hds⟩
    exact ⟨_, List.mem_map_of_mem hs, mem_clipped.mpr ⟨hcs, hc⟩, mem_clipped.mpr ⟨hds, hd⟩⟩

theorem sameClass_move_resize (hle : (p.move (.resize m)).maximum ≤ p.maximum)
    (hc : c ≤ (p.move (.resize m)).maximum) (hd : d ≤ (p.move (.resize m)).maximum) :
    (p.move (.resize m)).SameClass c d ↔ p.SameClass c d := by
  rw [Partition.move] at *
  cases h : p.resize m with
  | error e => rfl
  | ok q =>
    rw [h] at hle hc hd
    obtain ⟨-, ⟨added, hlo, -, rfl⟩ | ⟨-, rfl, -⟩ | ⟨-, rfl⟩⟩ := resize_cases h
    · have hbounds := added.lo_le_hi
      have hwide : added.hi ≤ p.maximum := hle
      omega
    · exact sameClass_clippedTo hc hd
    · rfl

end Partition

namespace Refiner
variable {r : Refiner} {qs : List Request} {c d : Nat} {f : CharSet}

/-- No request of the run makes the alphabet larger. -/
inductive NeverWidens : Refiner → List Request → Prop
  | done (r : Refiner) : NeverWidens r []
  | step {r : Refiner} {q : Request} {qs : List Request} :
      (r.apply q).refiner.partition.maximum ≤ r.partition.maximum →
      NeverWidens (r.apply q).refiner qs → NeverWidens r (q :: qs)

theorem NeverWidens.maximum_run_le (h : r.NeverWidens qs) :
    (r.run qs).partition.maximum ≤ r.partition.maximum := by
  induction h with
  | done r => exact Nat.le_refl _
  | step hle _ ih => exact Nat.le_trans ih hle

theorem maximum_apply {q : Request} (hq : ∀ n, q ≠ .alphabet n) :
    (r.apply q).refiner.partition.maximum = r.partition.maximum := by
  rw [(replays_apply r q).1, Request.moves_of_ne_alphabet hq, Partition.maximum_replay_split]

theorem NeverWidens.of_fixed_alphabet (h : ∀ n, Request.alphabet n ∉ qs) : r.NeverWidens qs := by
  induction qs generalizing r with
  | nil => exact .done r
  | cons q qs ih =>
    have hq : ∀ n, q ≠ .alphabet n := fun n hn => h n (hn ▸ List.mem_cons_self)
    exact .step (Nat.le_of_eq (maximum_apply hq)) (ih fun n hn => h n (List.mem_cons_of_mem _ hn))

/-- After one request two code points are together if they were and no set tells them apart. -/
theorem sameClass_apply (hr : r.partition.Valid) (q : Request)
    (hle : (r.apply q).refiner.partition.maximum ≤ r.partition.maximum)
    (hc : c ≤ (r.apply q).refiner.partition.maximum)
    (hd : d ≤ (r.apply q).refiner.partition.maximum) :
    (r.apply q).refiner.partition.SameClass c d ↔
      r.partition.SameClass c d ∧ ∀ f ∈ q.effectiveSets r.source?, (c ∈ f ↔ d ∈ f) := by
  have hmoves := (replays_apply r q).1
  by_cases hq : ∃ n, q = .alphabet n
  · obtain ⟨n, rfl⟩ := hq
    have hmove : (r.apply (.alphabet n)).refiner.partition = r.partition.move (.resize n) := hmoves
    rw [hmove] at hle hc hd ⊢
    simpa [Request.effectiveSets] using Partition.sameClass_move_resize hle hc hd
  · have hsplits := Request.moves_of_ne_alphabet (fun n hn => hq ⟨n, hn⟩) r.source?
    rw [hmoves, hsplits]
    exact hr.sameClass_replay_split (Nat.le_trans hc hle) (Nat.le_trans hd hle) _

theorem NeverWidens.sameClass_run (h : r.NeverWidens qs) (hr : r.partition.Valid)
    (hc : c ≤ (r.run qs).partition.maximum) (hd : d ≤ (r.run qs).partition.maximum) :
    (r.run qs).partition.SameClass c d ↔ r.partition.SameClass c d ∧
      ∀ f ∈ qs.flatMap (Request.effectiveSets r.source?), (c ∈ f ↔ d ∈ f) := by
  induction h with
  | done r => simp [run]
  | @step r q qs hle hrest ih =>
    have hmax := hrest.maximum_run_le
    have hstep := sameClass_apply hr q hle (Nat.le_trans hc hmax) (Nat.le_trans hd hmax)
    have hsource := (replays_apply r q).2
    rw [run, ih (valid_apply hr q) hc hd, hstep, hsource, List.flatMap_cons,
      List.forall_mem_append, and_assoc]

end Refiner

end ScannerAlphabet
