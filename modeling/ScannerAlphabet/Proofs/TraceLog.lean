import ScannerAlphabet.Proofs.ReadableTexts
import ScannerAlphabet.Proofs.Refusals

/-!
# The log of a run

What a refiner reports on a request says what the request does to the partition, and nothing else:
the set that classes are split by, already folded and clipped, with the number of classes after
it, or the old and the new alphabet. `replays_log` computes the partition after a run from the
reports alone. Since the lines of the log can be read back, two runs with the same lines end with
the same partition, whatever was requested and whichever sources of case variants were given.

A source may report something too when it is first asked. These reports come before the
refiner's own ones and are left out of the log here.
-/
namespace ScannerAlphabet

/-- The source with the same variants that reports nothing. -/
def CaselessSource.quiet (source : CaselessSource) : CaselessSource :=
  { source with onFirstLookup := Thunk.pure [] }

namespace Partition
variable {p : Partition} {a : Move}

/-- What a move of the partition leads to in the log. -/
def report (p : Partition) : Move → List Event
  | .split s => [.refining (p.clip s), .refined (p.move (.split s)).count]
  | .resize maximum =>
    match p.resize maximum with
    | .ok _ => [.alphabetChanged p.maximum maximum]
    | .error _ => []

/-- What some moves lead to in the log, one after the other. -/
def reportAll (p : Partition) : List Move → List Event
  | [] => []
  | a :: moves => p.report a ++ (p.move a).reportAll moves

/-- The partition after a reported event, read off the event. -/
def follow (p : Partition) : Event → Partition
  | .refining s => p.refine s
  | .alphabetChanged _ new => (p.resize new).toOption.getD p
  | _ => p

theorem reportAll_append (p : Partition) (moves more : List Move) :
    p.reportAll (moves ++ more) = p.reportAll moves ++ (p.replay moves).reportAll more := by
  induction moves generalizing p with
  | nil => rfl
  | cons a moves ih =>
    rw [List.cons_append, reportAll, reportAll, ih, replay_cons, List.append_assoc]

theorem reportAll_singleton : p.reportAll [a] = p.report a :=
  List.append_nil _

theorem report_resize_of_ok {q : Partition} {m : Nat} (h : p.resize m = .ok q) :
    p.report (.resize m) = [.alphabetChanged p.maximum m] := by
  simp only [report, h]

theorem report_resize_of_error {e : Error} {m : Nat} (h : p.resize m = .error e) :
    p.report (.resize m) = [] := by
  simp only [report, h]

/-- The report on a move is enough to make the move. -/
theorem foldl_follow_report : (p.report a).foldl follow p = p.move a := by
  cases a with
  | split s => rfl
  | resize m =>
    cases h : p.resize m with
    | error e =>
      rw [report_resize_of_error h, move, h]
      rfl
    | ok q =>
      rw [report_resize_of_ok h]
      rfl

theorem foldl_follow_reportAll (p : Partition) (moves : List Move) :
    (p.reportAll moves).foldl follow p = p.replay moves := by
  induction moves generalizing p with
  | nil => rfl
  | cons a moves ih =>
    rw [reportAll, List.foldl_append, foldl_follow_report, ih, replay_cons]

theorem level_of_mem_report : ∀ e ∈ p.report a, e.level = .trace := by
  cases a with
  | split s => simp [report, Event.level]
  | resize m =>
    cases h : p.resize m with
    | error e => simp [report_resize_of_error h]
    | ok q => simp [report_resize_of_ok h, Event.level]

theorem level_of_mem_reportAll (p : Partition) (moves : List Move) :
    ∀ e ∈ p.reportAll moves, e.level = .trace := by
  induction moves generalizing p with
  | nil => simp [reportAll]
  | cons a moves ih =>
    intro e he
    rcases List.mem_append.mp he with hfirst | hlater
    · exact level_of_mem_report e hfirst
    · exact ih (p.move a) e hlater

end Partition

theorem Event.lines_injective {l more : List Event} (hl : ∀ e ∈ l, e.level = .trace)
    (hmore : ∀ e ∈ more, e.level = .trace) (h : l.map Event.line = more.map Event.line) :
    l = more := by
  induction l generalizing more with
  | nil => exact (List.map_eq_nil_iff.mp h.symm).symm
  | cons d l ih =>
    cases more with
    | nil => cases h
    | cons e more =>
      have hline := List.cons.inj h
      have hfirst : d = e :=
        line_injective (hl d List.mem_cons_self) (hmore e List.mem_cons_self) hline.1
      have hrest : l = more := ih (fun a ha => hl a (List.mem_cons_of_mem _ ha))
        (fun a ha => hmore a (List.mem_cons_of_mem _ ha)) hline.2
      rw [hfirst, hrest]

namespace Request
variable {source : Option CaselessSource} {caseless : Bool} {q : Request}

theorem effective?_quiet :
    effective? (source.map CaselessSource.quiet) = effective? source := by
  funext s caseless
  cases source with
  | none => rfl
  | some given => rfl

/-- What a source reports has no influence on what a request does. -/
theorem moves_quiet : q.moves (source.map CaselessSource.quiet) = q.moves source := by
  have hchar : effectiveChar? (source.map CaselessSource.quiet) = effectiveChar? source := by
    funext caseless c
    unfold effectiveChar?
    rw [effective?_quiet]
  cases q with
  | alphabet maximum => rfl
  | _ => simp only [moves, effectiveSets, hchar, effective?_quiet]

/-- The effective sets of a text are those of its characters before the first that has none. -/
theorem filterMap_takeWhile_isSome (cs : List Char) :
    (cs.takeWhile fun c => (effectiveChar? source caseless c).isSome).filterMap
        (effectiveChar? source caseless) =
      (cs.takeWhile fun c => c.toNat ≤ CodePoint.last).filterMap
        (effectiveChar? source caseless) := by
  induction cs with
  | nil => rfl
  | cons c cs ih =>
    cases h : effectiveChar? source caseless c with
    | none =>
      rw [filterMap_effectiveChar?_of_none h, List.takeWhile_cons_of_neg (by simp [h]),
        List.filterMap_nil]
    | some f =>
      rw [filterMap_effectiveChar?_of_some h, List.takeWhile_cons_of_pos (by simp [h]),
        List.filterMap_cons_some h, ih]

end Request

namespace Refiner
open Request

variable {r : Refiner} {s : CharSet} {caseless : Bool} {c : Char} {q : Request}

/-- The refiner with a source that reports nothing. -/
def quiet (r : Refiner) : Refiner :=
  { r with reader := r.reader.map fun reader => { reader with source := reader.source.quiet } }

/-- What the source reports if it is asked now. -/
def sourceReport (r : Refiner) : List Event :=
  (r.reader.map fun reader => reader.ask.2).getD []

/-- What the refiner itself reports on a request. -/
def reports (r : Refiner) (q : Request) : List Event :=
  (r.quiet.apply q).events

/-- The log of a run, without what sources report. -/
def log (r : Refiner) : List Request → List Event
  | [] => []
  | q :: qs => r.reports q ++ (r.apply q).refiner.log qs

/-- The events of the outcome are reports on some moves, possibly after a report by the source. -/
def Tells (r : Refiner) (caseless : Bool) (moves : List Move) (o : Outcome) : Prop :=
  ∃ asked, (asked = [] ∨ (caseless = true ∧ asked = r.sourceReport)) ∧
    o.events = asked ++ r.partition.reportAll moves

theorem Tells.refuse {e : Error} : r.Tells caseless [] (r.refuse e) :=
  ⟨[], .inl rfl, rfl⟩

theorem tells_refineBySet (r : Refiner) (s : CharSet) (caseless : Bool) :
    r.Tells caseless ((effective? r.source? s caseless).toList.map .split)
      (r.refineBySet s caseless) := by
  cases caseless with
  | false => exact ⟨[], .inl rfl, rfl⟩
  | true =>
    cases hr : r.reader with
    | none =>
      have hnone : effective? r.source? s true = none :=
        effective?_eq_none_iff.mpr ⟨rfl, by simp [source?, hr]⟩
      rw [hnone, refineBySet_of_none hnone]
      exact Tells.refuse
    | some reader =>
      have hsource : r.sourceReport = reader.ask.2 := by simp [sourceReport, hr]
      unfold refineBySet effective? source?
      rw [hr]
      by_cases hempty : s.isEmpty = true
      · exact ⟨[], .inl rfl, by simp [CaselessReader.fold, hempty, split, Partition.reportAll,
          Partition.report, Partition.move, Partition.clip]⟩
      · exact ⟨reader.ask.2, .inr ⟨rfl, hsource.symm⟩, by simp [CaselessReader.fold, hempty,
          split, Partition.reportAll, Partition.report, Partition.move, Partition.clip]⟩

theorem tells_refineByChar (r : Refiner) (c : Char) (caseless : Bool) :
    r.Tells caseless ((effectiveChar? r.source? caseless c).toList.map .split)
      (r.refineByChar c caseless) := by
  unfold refineByChar effectiveChar?
  rw [← ofChar_bind_single]
  cases (Alphabet.ofChar c).bind CharSet.single with
  | error e => exact Tells.refuse
  | ok s => exact tells_refineBySet r s caseless

theorem sourceReport_refineByChar (h : (r.refineByChar c true).result = .ok ()) :
    (r.refineByChar c true).refiner.sourceReport = [] := by
  by_cases hc : CodePoint.last < c.toNat
  · rw [refineByChar_of_last_lt hc] at h
    cases h
  · rw [refineByChar_of_le_last (Nat.not_lt.mp hc)] at h ⊢
    have hmember : ∀ span, (CharSet.ofSpan span).isEmpty = false := fun _ => rfl
    cases hr : r.reader with
    | none => simp [refineBySet, hr, refuse] at h
    | some reader =>
      simp [refineBySet, hr, split, sourceReport, CaselessReader.fold, CaselessReader.ask, hmember]

theorem events_refineByChars_cons (h : (r.refineByChar c caseless).result = .ok ())
    (cs : List Char) : (r.refineByChars caseless (c :: cs)).events =
      (r.refineByChar c caseless).events ++
        ((r.refineByChar c caseless).refiner.refineByChars caseless cs).events := by
  simp only [refineByChars, h]

theorem tells_refineByChars (r : Refiner) (caseless : Bool) (cs : List Char) :
    r.Tells caseless (((cs.takeWhile fun c => c.toNat ≤ CodePoint.last).filterMap
      (effectiveChar? r.source? caseless)).map .split) (r.refineByChars caseless cs) := by
  induction cs generalizing r with
  | nil => exact ⟨[], .inl rfl, rfl⟩
  | cons c cs ih =>
    cases h : effectiveChar? r.source? caseless c with
    | none =>
      obtain ⟨e, he⟩ := refineByChar_of_none h
      rw [filterMap_effectiveChar?_of_none h, refineByChars_cons_of_refuse he]
      exact Tells.refuse
    | some f =>
      obtain ⟨hok, hpartition, hsource⟩ := refineByChar_of_some h
      obtain ⟨asked, hasked, hfirst⟩ := tells_refineByChar r c caseless
      obtain ⟨again, hagain, hrest⟩ := ih (r.refineByChar c caseless).refiner
      have hnothing : again = [] := by
        rcases hagain with hnil | ⟨rfl, hreport⟩
        · exact hnil
        · rw [hreport, sourceReport_refineByChar hok]
      refine ⟨asked, hasked, ?_⟩
      rw [events_refineByChars_cons hok, hfirst, hrest, hnothing, hsource, hpartition, h,
        filterMap_effectiveChar?_of_some h]
      simp only [Option.toList_some, List.map_cons, List.map_nil, Partition.replay_cons,
        Partition.replay_nil, Partition.reportAll, List.append_nil, List.nil_append,
        List.append_assoc]

theorem tells_changeAlphabet (r : Refiner) (m : Nat) :
    r.Tells false [.resize m] (r.changeAlphabet m) := by
  have hevents : (r.changeAlphabet m).events = r.partition.report (.resize m) := by
    unfold changeAlphabet
    cases h : r.partition.resize m with
    | error e =>
      rw [Partition.report_resize_of_error h]
      rfl
    | ok p => rw [Partition.report_resize_of_ok h]
  exact ⟨[], .inl rfl, by rw [hevents, Partition.reportAll_singleton, List.nil_append]⟩

/-- Besides a report by the source that is made first, the events of a request are the reports on
its moves. -/
theorem events_apply (r : Refiner) (q : Request) :
    ∃ asked, (asked = [] ∨ asked = r.sourceReport) ∧
      (r.apply q).events = asked ++ r.partition.reportAll (q.moves r.source?) := by
  have htells : ∃ caseless, r.Tells caseless (q.moves r.source?) (r.apply q) := by
    cases q with
    | set s caseless => exact ⟨caseless, tells_refineBySet r s caseless⟩
    | char c caseless => exact ⟨caseless, tells_refineByChar r c caseless⟩
    | text t caseless => exact ⟨caseless, tells_refineByChars r caseless t.toList⟩
    | spans l caseless => exact ⟨caseless, tells_refineBySet r (CharSet.ofSpans l) caseless⟩
    | complement l caseless => exact ⟨caseless, tells_refineBySet r (CharSet.ofSpans l) caseless⟩
    | alphabet m => exact ⟨false, tells_changeAlphabet r m⟩
  obtain ⟨caseless, asked, hasked, hevents⟩ := htells
  exact ⟨asked, hasked.imp_right And.right, hevents⟩

theorem source?_quiet (r : Refiner) : r.quiet.source? = r.source?.map CaselessSource.quiet := by
  unfold quiet source?
  rw [Option.map_map, Option.map_map]
  rfl

theorem sourceReport_quiet (r : Refiner) : r.quiet.sourceReport = [] := by
  unfold sourceReport quiet
  cases r.reader with
  | none => rfl
  | some reader => exact ite_self []

theorem reports_eq (r : Refiner) (q : Request) :
    r.reports q = r.partition.reportAll (q.moves r.source?) := by
  obtain ⟨asked, hasked, hevents⟩ := events_apply r.quiet q
  have hnothing : asked = [] := by
    rcases hasked with hnil | hreport
    · exact hnil
    · rw [hreport, sourceReport_quiet]
  rw [reports, hevents, hnothing, List.nil_append, source?_quiet, moves_quiet]
  rfl

/-- The log of a run is the reports on its moves. -/
theorem log_eq (r : Refiner) (qs : List Request) :
    r.log qs = r.partition.reportAll (qs.flatMap (Request.moves r.source?)) := by
  induction qs generalizing r with
  | nil => rfl
  | cons q qs ih =>
    obtain ⟨hpartition, hsource⟩ := replays_apply r q
    rw [log, ih, hpartition, hsource, reports_eq, List.flatMap_cons, Partition.reportAll_append]

/-- The partition after a run can be computed from the log. -/
theorem replays_log (r : Refiner) (qs : List Request) :
    (r.log qs).foldl Partition.follow r.partition = (r.run qs).partition := by
  rw [log_eq, Partition.foldl_follow_reportAll, partition_run]

theorem level_of_mem_log (r : Refiner) (qs : List Request) :
    ∀ e ∈ r.log qs, e.level = .trace := by
  rw [log_eq]
  exact Partition.level_of_mem_reportAll _ _

theorem partition_run_eq_of_lines_eq {r r' : Refiner} {qs qs' : List Request}
    (hpartition : r.partition = r'.partition)
    (hlines : (r.log qs).map Event.line = (r'.log qs').map Event.line) :
    (r.run qs).partition = (r'.run qs').partition := by
  have hlog : r.log qs = r'.log qs' :=
    Event.lines_injective (level_of_mem_log r qs) (level_of_mem_log r' qs') hlines
  rw [← replays_log, ← replays_log, hlog, hpartition]

theorem exists_effectiveSets_of_ok (htext : ∀ t b, q ≠ .text t b) (halphabet : ∀ m, q ≠ .alphabet m)
    (h : (r.apply q).result = .ok ()) : ∃ f, q.effectiveSets r.source? = [f] := by
  have hset : ∀ s caseless, (r.refineBySet s caseless).result = .ok () →
      ∃ f, (effective? r.source? s caseless).toList = [f] := by
    intro s caseless hok
    cases hf : effective? r.source? s caseless with
    | none =>
      rw [refineBySet_of_none hf] at hok
      cases hok
    | some f => exact ⟨f, rfl⟩
  cases q with
  | set s caseless => exact hset s caseless h
  | char c caseless =>
    change (r.refineByChar c caseless).result = .ok () at h
    cases hf : effectiveChar? r.source? caseless c with
    | none =>
      obtain ⟨e, he⟩ := refineByChar_of_none hf
      rw [he] at h
      cases h
    | some f => exact ⟨f, by rw [effectiveSets, hf, Option.toList_some]⟩
  | text t caseless => exact absurd rfl (htext t caseless)
  | spans l caseless => exact hset (CharSet.ofSpans l) caseless h
  | complement l caseless => exact hset (CharSet.ofSpans l) caseless h
  | alphabet m => exact absurd rfl (halphabet m)

theorem reports_of_effectiveSets {f : CharSet} (halphabet : ∀ m, q ≠ .alphabet m)
    (h : q.effectiveSets r.source? = [f]) : r.reports q =
      [.refining (r.partition.clip f), .refined (r.apply q).refiner.partition.count] := by
  have hmoves : q.moves r.source? = [.split f] := by
    rw [moves_of_ne_alphabet halphabet, h]
    rfl
  rw [reports_eq, (replays_apply r q).1, hmoves, Partition.reportAll_singleton]
  rfl

theorem reports_alphabet_of_ok {m : Nat} (h : (r.apply (.alphabet m)).result = .ok ()) :
    r.reports (.alphabet m) = [.alphabetChanged r.partition.maximum m] := by
  rw [reports_eq, moves, Partition.reportAll_singleton]
  cases hp : r.partition.resize m with
  | error e =>
    rw [apply_alphabet_of_error hp] at h
    cases h
  | ok p => exact Partition.report_resize_of_ok hp

/-- A request that is refused reports nothing, unless it is a text. -/
theorem reports_of_error {e : Error} (htext : ∀ t b, q ≠ .text t b)
    (h : (r.apply q).result = .error e) : r.reports q = [] := by
  obtain ⟨asked, -, hevents⟩ := events_apply r q
  rw [apply_of_error htext h] at hevents
  rw [reports_eq]
  exact (List.append_eq_nil_iff.mp hevents.symm).2

theorem isOk_apply_char : (r.apply (.char c caseless)).result.isOk =
    (effectiveChar? r.source? caseless c).isSome := by
  change (r.refineByChar c caseless).result.isOk = _
  cases h : effectiveChar? r.source? caseless c with
  | none =>
    obtain ⟨e, he⟩ := refineByChar_of_none h
    rw [he]
    rfl
  | some f =>
    rw [(refineByChar_of_some h).1]
    rfl

/-- The characters of a text before the first that fails. -/
def processed (r : Refiner) (caseless : Bool) (t : String) : List Char :=
  t.toList.takeWhile fun c => (r.apply (.char c caseless)).result.isOk

theorem flatMap_moves_char (source : Option CaselessSource) (cs : List Char) :
    (cs.map fun c => Request.char c caseless).flatMap (Request.moves source) =
      (cs.filterMap (effectiveChar? source caseless)).map .split := by
  induction cs with
  | nil => rfl
  | cons c cs ih =>
    rw [List.map_cons, List.flatMap_cons, ih]
    cases h : effectiveChar? source caseless c with
    | none => simp [moves, effectiveSets, h]
    | some f => simp [moves, effectiveSets, h]

/-- A text reports what its characters report, up to the one that fails. -/
theorem reports_text (r : Refiner) (t : String) (caseless : Bool) :
    r.reports (.text t caseless) = r.log ((r.processed caseless t).map (.char · caseless)) := by
  rw [reports_eq, log_eq, flatMap_moves_char]
  unfold processed
  simp only [isOk_apply_char]
  rw [filterMap_takeWhile_isSome]
  rfl

theorem outcomes_char_ok (cs : List Char)
    (h : ∀ c ∈ cs, (r.apply (.char c caseless)).result.isOk = true) :
    ∀ o ∈ r.outcomes (cs.map (.char · caseless)), o.result = .ok () := by
  induction cs generalizing r with
  | nil => simp [outcomes]
  | cons c cs ih =>
    have hc := h c List.mem_cons_self
    have hsource := (replays_apply r (.char c caseless)).2
    intro o ho
    rcases List.mem_cons.mp ho with rfl | hlater
    · cases hresult : (r.apply (.char c caseless)).result with
      | error e => simp [hresult, Except.isOk, Except.toBool] at hc
      | ok u => rfl
    · apply ih _ o hlater
      intro d hd
      rw [isOk_apply_char, hsource, ← isOk_apply_char]
      exact h d (List.mem_cons_of_mem _ hd)

/-- The lines of the log determine the partition after a run. A request that refines once reports
the effective set as far as it lies in the alphabet and then the number of classes, a text does so
for every character before the first that fails, a change of the alphabet reports the old and the
new one, and any other request that fails reports nothing. -/
theorem log_determines_partition :
    (∀ (p : Partition) (source source' : Option CaselessSource) (qs qs' : List Request),
      ((ofPartition p source).log qs).map Event.line =
          ((ofPartition p source').log qs').map Event.line →
        ((ofPartition p source).run qs).partition = ((ofPartition p source').run qs').partition) ∧
    ∀ r : Refiner,
      (∀ q, (∀ t b, q ≠ .text t b) → (∀ m, q ≠ .alphabet m) → (r.apply q).result = .ok () →
        ∃ f, q.effectiveSets r.source? = [f] ∧ r.reports q =
          [.refining (r.partition.clip f), .refined (r.apply q).refiner.partition.count]) ∧
      (∀ t b, r.reports (.text t b) = r.log ((r.processed b t).map (.char · b)) ∧
        ∀ o ∈ r.outcomes ((r.processed b t).map (.char · b)), o.result = .ok ()) ∧
      (∀ m, (r.apply (.alphabet m)).result = .ok () →
        r.reports (.alphabet m) = [.alphabetChanged r.partition.maximum m]) ∧
      (∀ q e, (∀ t b, q ≠ .text t b) → (r.apply q).result = .error e → r.reports q = []) ∧
      (∀ q, ∃ asked, (asked = [] ∨ asked = r.sourceReport) ∧
        (r.apply q).events = asked ++ r.reports q) := by
  refine ⟨?_, fun r => ⟨?_, ?_, ?_, ?_, ?_⟩⟩
  · intro p source source' qs qs' hlines
    exact partition_run_eq_of_lines_eq rfl hlines
  · intro q htext halphabet hok
    obtain ⟨f, hf⟩ := exists_effectiveSets_of_ok htext halphabet hok
    exact ⟨f, hf, reports_of_effectiveSets halphabet hf⟩
  · intro t b
    refine ⟨reports_text r t b, outcomes_char_ok _ ?_⟩
    intro c hc
    exact List.mem_takeWhile_imp (p := fun c => (r.apply (.char c b)).result.isOk) hc
  · intro m hok
    exact reports_alphabet_of_ok hok
  · intro q e htext herror
    exact reports_of_error htext herror
  · intro q
    obtain ⟨asked, hasked, hevents⟩ := events_apply r q
    exact ⟨asked, hasked, by rw [hevents, reports_eq]⟩

/-- Folding the letter K in one run and submitting its fold in the other leads to the same lines,
whatever is refused in between. -/
theorem log_determines_partition_letters :
    let variants : CharSet := CharSet.ofSpans [⟨0x4B, 0x4B, by decide, by decide⟩,
      ⟨0x6B, 0x6B, by decide, by decide⟩]
    let source : CaselessSource :=
      ⟨fun c => if c = 0x6B then some variants else none, 0x6B, Thunk.pure [.refined 0]⟩
    let folding := ofPartition (Partition.ofWidth .sevenBit) (some source)
    let plain := ofPartition (Partition.ofWidth .sevenBit) none
    let qs : List Request := [.char 'k' true, .alphabet 0x20, .text "a😀b" false]
    let qs' : List Request := [.set variants false, .char 'c' true, .char 'a' false]
    (folding.log qs).map Event.line = (plain.log qs').map Event.line ∧
      (folding.run qs).partition = (plain.run qs').partition ∧
      (folding.run qs).partition.count = 3 ∧
      folding.reports (.alphabet 0x7F) = [.alphabetChanged 0x7F 0x7F] ∧
      folding.reports (.alphabet 0x10000) = [] := by
  intro variants source folding plain qs qs'
  have hlines : (folding.log qs).map Event.line = (plain.log qs').map Event.line := by
    have hlog : folding.log qs = plain.log qs' := by decide
    rw [hlog]
  obtain ⟨hpartition, hreports⟩ := log_determines_partition
  obtain ⟨-, -, halphabet, hrefused, -⟩ := hreports folding
  exact ⟨hlines, hpartition _ _ _ _ _ hlines, by decide, halphabet _ rfl,
    hrefused (.alphabet 0x10000) (.outOfRange 0x10000 CodePoint.last) (by simp) rfl⟩

end Refiner
end ScannerAlphabet
