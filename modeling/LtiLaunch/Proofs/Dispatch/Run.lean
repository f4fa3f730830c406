import LtiLaunch.Proofs.Dispatch.Exclusive
import LtiLaunch.Proofs.Launch.Trace

/-!
# Runs of a selection

What a selection does guard by guard, over a backend that may answer the same question differently
each time. A run passes from point to point: `Passed` and `Refused` say which guards it evaluates and
with what verdicts, and `Stuck` that it ends because the document cannot be found out.
-/

namespace LtiLaunch.Selection

variable {σ η : Type}

/-- Where a run stands: the world, and what is remembered of the document. -/
abbrev Point (σ : Type) := σ × Memo

section Steps

variable (b : Backend σ) (r : LaunchRequest)

/-- At `p` the guard is evaluated with this verdict, and the run goes on at `q`. -/
def Judged (p : Point σ) (g : Guard) (pass : Bool) (q : Point σ) : Prop :=
  (passes b r p.2 g).run.run p.1 = (.ok (pass, q.2), q.1)

/-- From `p` on the guards are evaluated, and all of them pass. -/
inductive Passed : Point σ → List Guard → Point σ → Prop
  | nil (p : Point σ) : Passed p [] p
  | cons {p q z : Point σ} {g : Guard} {gs : List Guard} (first : Judged b r p g true q)
      (rest : Passed q gs z) : Passed p (g :: gs) z

/-- From `p` on the guards are evaluated up to one that does not pass. -/
inductive Refused : Point σ → List Guard → Point σ → Prop
  | here {p z : Point σ} {g : Guard} {gs : List Guard} (first : Judged b r p g false z) :
      Refused p (g :: gs) z
  | later {p q z : Point σ} {g : Guard} {gs : List Guard} (first : Judged b r p g true q)
      (rest : Refused q gs z) : Refused p (g :: gs) z

/-- From `p` on the guards are evaluated up to a question about the document, which cannot be
found out for the reason `e`. -/
inductive Stuck : Point σ → List Guard → LaunchError → Prop
  | here {s : σ} {p : SourcePredicate} {expected : Bool} {gs : List Guard} {e : LaunchError}
      (failed : outcome (Signals.resolve b r) s = .error e) :
      Stuck (s, none) (.predicate (.document p) expected :: gs) e
  | later {p q : Point σ} {g : Guard} {gs : List Guard} {e : LaunchError}
      (first : Judged b r p g true q) (rest : Stuck q gs e) : Stuck p (g :: gs) e

/-- From `p` on each of the candidates is refused. -/
inductive AllRefused : Point σ → List (Candidate η) → Point σ → Prop
  | nil (p : Point σ) : AllRefused p [] p
  | cons {p q z : Point σ} {c : Candidate η} {cs : List (Candidate η)}
      (first : Refused b r p c.guards.guards q) (rest : AllRefused q cs z) : AllRefused p (c :: cs) z

/-- Every candidate that asks about the document and comes to be evaluated is refused by its cheaper
guards alone. -/
def Spared (p : Point σ) (cs : List (Candidate η)) : Prop :=
  ∀ before c rest q, cs = before ++ c :: rest → AllRefused b r p before q →
    (∃ g ∈ c.guards.guards, g.cost = 2) →
      ∃ z, Refused b r q (c.guards.guards.filter (·.cost < 2)) z

end Steps

variable {b : Backend σ} {r : LaunchRequest} {gs : List Guard} {cs : List (Candidate η)}

/-! ### What can happen -/

theorem document_error {s : σ} {memo : Memo} {e : LaunchError}
    (failed : outcome (document b r memo) s = .error e) :
    memo = none ∧ ∃ e', outcome (Signals.resolve b r) s = .error e' ∧ e = guardFailure e' := by
  cases memo with
  | some found => cases failed
  | none =>
    refine ⟨rfl, ?_⟩
    unfold document outcome at failed
    rw [run_tryCatch] at failed
    cases came : outcome (Signals.resolve b r) s with
    | ok found => simp [came] at failed
    | error e' =>
      rw [came] at failed
      exact ⟨e', rfl, (Except.error.inj failed).symm⟩

theorem passes_cases (p : Point σ) (g : Guard) :
    (∃ pass q, Judged b r p g pass q) ∨
      ∃ e, outcome (passes b r p.2 g) p.1 = .error (guardFailure e) ∧ Stuck b r p [g] e := by
  obtain ⟨s, memo⟩ := p
  match g with
  | .flag name enabled =>
    exact .inl ⟨_, (after (liftM (b.flagEnabled name r) : LaunchM σ Bool) s, memo), rfl⟩
  | .predicate .mayConfigure expected => exact .inl ⟨_, (s, memo), rfl⟩
  | .predicate (.document q) expected =>
    unfold Judged passes
    cases came : outcome (document b r memo) s with
    | ok found =>
      refine .inl ⟨q.holds found == expected, (after (document b r memo) s, some found), ?_⟩
      exact run_bind_ok came
    | error e =>
      obtain ⟨rfl, e', failed, rfl⟩ := document_error came
      exact .inr ⟨e', outcome_bind_error came, .here failed⟩

theorem passesAll_cons {p : Point σ} {g : Guard} {q : Point σ} (judged : Judged b r p g true q) :
    (passesAll b r p.2 (g :: gs)).run.run p.1 = (passesAll b r q.2 gs).run.run q.1 := by
  have came := outcome_of_run judged
  have world := after_of_run judged
  rw [passesAll, run_bind_ok came, world]
  rfl

theorem passesAll_cons_refused {p : Point σ} {g : Guard} {q : Point σ}
    (judged : Judged b r p g false q) :
    (passesAll b r p.2 (g :: gs)).run.run p.1 = (.ok (false, q.2), q.1) := by
  have came := outcome_of_run judged
  have world := after_of_run judged
  rw [passesAll, run_bind_ok came, world]
  rfl

/-- Guards are all passed, or refused at one of them, or the run is stuck at one. -/
theorem passesAll_cases (p : Point σ) (gs : List Guard) :
    (∃ q, (passesAll b r p.2 gs).run.run p.1 = (.ok (true, q.2), q.1) ∧ Passed b r p gs q) ∨
      (∃ q, (passesAll b r p.2 gs).run.run p.1 = (.ok (false, q.2), q.1) ∧ Refused b r p gs q) ∨
      ∃ e, outcome (passesAll b r p.2 gs) p.1 = .error (guardFailure e) ∧ Stuck b r p gs e := by
  induction gs generalizing p with
  | nil => exact .inl ⟨p, rfl, .nil p⟩
  | cons g gs ih =>
    rcases passes_cases (b := b) (r := r) p g with ⟨pass, q, judged⟩ | ⟨e, failed, stuck⟩
    · cases pass with
      | false => exact .inr (.inl ⟨q, passesAll_cons_refused judged, .here judged⟩)
      | true =>
        rw [outcome, passesAll_cons judged]
        rcases ih q with ⟨z, run, passed⟩ | ⟨z, run, refused⟩ | ⟨e, failed, stuck⟩
        · exact .inl ⟨z, run, .cons judged passed⟩
        · exact .inr (.inl ⟨z, run, .later judged refused⟩)
        · exact .inr (.inr ⟨e, failed, .later judged stuck⟩)
    · refine .inr (.inr ⟨e, outcome_bind_error failed, ?_⟩)
      cases stuck with
      | here failed => exact .here failed
      | later _ rest => cases rest

/-- Candidates are refused up to one that passes, or all of them, or up to one at which the run is
stuck. -/
theorem firstMatch_cases (p : Point σ) (cs : List (Candidate η)) :
    (∃ before c rest q z, (firstMatch b r p.2 cs).run.run p.1 = (.ok (some c), z.1) ∧
        cs = before ++ c :: rest ∧ AllRefused b r p before q ∧ Passed b r q c.guards.guards z) ∨
      (∃ q, outcome (firstMatch b r p.2 cs) p.1 = .ok none ∧ AllRefused b r p cs q) ∨
      ∃ before c rest q e, outcome (firstMatch b r p.2 cs) p.1 = .error (guardFailure e) ∧
        cs = before ++ c :: rest ∧ AllRefused b r p before q ∧ Stuck b r q c.guards.guards e := by
  induction cs generalizing p with
  | nil => exact .inr (.inl ⟨p, rfl, .nil p⟩)
  | cons c cs ih =>
    rcases passesAll_cases (b := b) (r := r) p c.guards.guards with
      ⟨q, run, passed⟩ | ⟨q, run, refused⟩ | ⟨e, failed, stuck⟩
    · have came := outcome_of_run run
      have world := after_of_run run
      refine .inl ⟨[], c, cs, p, q, ?_, rfl, .nil p, passed⟩
      rw [firstMatch, run_bind_ok came, world]
      rfl
    · have came := outcome_of_run run
      have world := after_of_run run
      have next : (firstMatch b r p.2 (c :: cs)).run.run p.1 = (firstMatch b r q.2 cs).run.run q.1 :=
        by rw [firstMatch, run_bind_ok came, world]; rfl
      rw [outcome, next]
      rcases ih q with ⟨before, d, rest, z, z', found, rfl, all, passed⟩ | ⟨z, none, all⟩ |
        ⟨before, d, rest, z, e, failed, rfl, all, stuck⟩
      · exact .inl ⟨c :: before, d, rest, z, z', found, rfl, .cons refused all, passed⟩
      · exact .inr (.inl ⟨z, none, .cons refused all⟩)
      · exact .inr (.inr ⟨c :: before, d, rest, z, e, failed, rfl, .cons refused all, stuck⟩)
    · exact .inr (.inr ⟨[], c, cs, p, e, outcome_bind_error failed, rfl, .nil p, stuck⟩)

/-- A choice is made where the run passes the guards of the candidate. -/
theorem passed_of_choose {t : DispatchTable η} {s : σ} {c : Candidate η}
    (chosen : outcome (choose b t r) s = .ok c) :
    ∃ before rest q z, t.candidates r.key = before ++ c :: rest ∧
      AllRefused b r (s, none) before q ∧ Passed b r q c.guards.guards z ∧
        after (choose b t r) s = after (liftM (b.journal (selected c)) : LaunchM σ Unit) z.1 := by
  rcases firstMatch_cases (b := b) (r := r) (s, none) (t.candidates r.key) with
    ⟨before, d, rest, q, z, run, split, refused, passed⟩ | ⟨q, none, -⟩ |
    ⟨before, d, rest, q, cause, stop, -⟩
  · have found := outcome_of_run run
    have whole : (choose b t r).run.run s = _ := run_bind_ok found
    rw [after_of_run run] at whole
    obtain rfl : d = c := Except.ok.inj ((outcome_of_run whole).symm.trans chosen)
    exact ⟨before, rest, q, z, split, refused, passed, after_of_run whole⟩
  · rw [choose, outcome_bind_ok none] at chosen
    cases chosen
  · rw [choose, outcome_bind_error stop] at chosen
    cases chosen

/-! ### What a run remembers -/

theorem Judged.unique {p q q' : Point σ} {g : Guard} {pass pass' : Bool}
    (judged : Judged b r p g pass q) (judged' : Judged b r p g pass' q') : pass = pass' ∧ q = q' := by
  have same : ((Except.ok (pass, q.2), q.1) : Except LaunchError (Bool × Memo) × σ) =
    (.ok (pass', q'.2), q'.1) := Eq.trans (Eq.symm judged) judged'
  simp only [Prod.mk.injEq, Except.ok.injEq] at same
  obtain ⟨⟨pass, memo⟩, world⟩ := same
  exact ⟨pass, Prod.ext world memo⟩

theorem judged_document {s : σ} {found : Option AssignedDocument}
    (came : outcome (Signals.resolve b r) s = .ok found) (d : SourcePredicate) (expected : Bool) :
    Judged b r (s, none) (.predicate (.document d) expected) (d.holds found == expected)
      (after (Signals.resolve b r) s, some found) := by
  have run : (document b r none).run.run s = (.ok found, after (Signals.resolve b r) s) := by
    unfold document
    rw [run_tryCatch, came]
  unfold Judged passes
  rw [run_bind_ok (outcome_of_run run), after_of_run run]
  rfl

/-- Where a guard takes the run: it reads a flag, or the user, or the document, which is looked for
only if it is not remembered. -/
theorem Judged.cases {p q : Point σ} {g : Guard} {pass : Bool} (judged : Judged b r p g pass q) :
    (∃ name enabled, g = .flag name enabled ∧
        q = (after (liftM (b.flagEnabled name r) : LaunchM σ Bool) p.1, p.2)) ∨
      (∃ expected, g = .predicate .mayConfigure expected ∧ q = p) ∨
      ∃ d expected found, g = .predicate (.document d) expected ∧
        pass = (d.holds found == expected) ∧ q.2 = some found ∧
        (p.2 = some found ∧ q.1 = p.1 ∨
          p.2 = none ∧ (Signals.resolve b r).run.run p.1 = (.ok found, q.1)) := by
  obtain ⟨s, memo⟩ := p
  match g with
  | .flag name enabled =>
    have known : Judged b r (s, memo) (.flag name enabled) _
        (after (liftM (b.flagEnabled name r) : LaunchM σ Bool) s, memo) := rfl
    obtain ⟨-, rfl⟩ := judged.unique known
    exact .inl ⟨name, enabled, rfl, rfl⟩
  | .predicate .mayConfigure expected =>
    have known : Judged b r (s, memo) (.predicate .mayConfigure expected) _ (s, memo) := rfl
    obtain ⟨-, rfl⟩ := judged.unique known
    exact .inr (.inl ⟨expected, rfl, rfl⟩)
  | .predicate (.document d) expected =>
    refine .inr (.inr ⟨d, expected, ?_⟩)
    cases memo with
    | some found =>
      have known : Judged b r (s, some found) (.predicate (.document d) expected) _
          (s, some found) := rfl
      obtain ⟨rfl, rfl⟩ := judged.unique known
      exact ⟨found, rfl, rfl, rfl, .inl ⟨rfl, rfl⟩⟩
    | none =>
      cases came : outcome (Signals.resolve b r) s with
      | ok found =>
        obtain ⟨rfl, rfl⟩ := judged.unique (judged_document came d expected)
        exact ⟨found, rfl, rfl, rfl, .inr ⟨rfl, Prod.ext came rfl⟩⟩
      | error e =>
        have failed : outcome (document b r none) s = .error (guardFailure e) := by
          unfold document outcome
          rw [run_tryCatch, came]
          rfl
        have stuck : outcome (passes b r none (.predicate (.document d) expected)) s = _ :=
          outcome_bind_error failed
        rw [outcome_of_run judged] at stuck
        cases stuck

theorem Judged.remembers {p q : Point σ} {g : Guard} {pass : Bool}
    {found : Option AssignedDocument} (judged : Judged b r p g pass q) (known : p.2 = some found) :
    q.2 = some found := by
  rcases judged.cases with ⟨name, enabled, -, rfl⟩ | ⟨expected, -, rfl⟩ |
    ⟨d, expected, document, -, -, remembered, ⟨same, -⟩ | ⟨unknown, -⟩⟩
  · exact known
  · exact known
  · rw [remembered, ← same, known]
  · rw [unknown] at known
    cases known

/-! ### What a run keeps -/

section Kept

variable {I : Point σ → Prop}
  (step : ∀ {p q : Point σ} {g : Guard} {pass : Bool}, Judged b r p g pass q → I p → I q)
include step

theorem Passed.keeps {p z : Point σ} (passed : Passed b r p gs z) (start : I p) : I z := by
  induction passed with
  | nil => exact start
  | cons first _ ih => exact ih (step first start)

theorem Refused.keeps {p z : Point σ} (refused : Refused b r p gs z) (start : I p) : I z := by
  induction refused with
  | here first => exact step first start
  | later first _ ih => exact ih (step first start)

theorem AllRefused.keeps {p z : Point σ} (refused : AllRefused b r p cs z) (start : I p) : I z := by
  induction refused with
  | nil => exact start
  | cons first _ ih => exact ih (first.keeps step start)

end Kept

/-- Guards that pass and ask about the document leave it remembered, and it answers as they expect. -/
theorem Passed.document {p z : Point σ} (passed : Passed b r p gs z) {d : SourcePredicate}
    {expected : Bool} (mem : .predicate (.document d) expected ∈ gs) :
    ∃ found, z.2 = some found ∧ d.holds found = expected := by
  induction passed with
  | nil => cases mem
  | cons first rest ih =>
    rcases List.mem_cons.mp mem with rfl | mem
    · rcases first.cases with ⟨_, _, same, -⟩ | ⟨_, same, -⟩ | ⟨_, _, found, same, holds, known, -⟩
      · cases same
      · cases same
      · cases same
        refine ⟨found, rest.keeps (I := fun p => p.2 = some found) Judged.remembers known, ?_⟩
        exact (beq_iff_eq.mp holds.symm)
    · exact ih mem

/-! ### Which calls are made -/

/-- The calls of guards that begin with one memo and come to an outcome: flags only, except where
the document comes to be known, or its search fails. -/
inductive Frugal : Memo → Except LaunchError (Bool × Memo) → List BackendCall → Prop
  | kept {memo : Memo} {pass : Bool} {calls : List BackendCall} (flags : FlagsOnly calls) :
      Frugal memo (.ok (pass, memo)) calls
  | found {pass : Bool} {document : Option AssignedDocument} {calls : List BackendCall}
      (once : LooksOnce calls) : Frugal none (.ok (pass, some document)) calls
  | failed {e : LaunchError} {calls : List BackendCall} (once : LooksOnce calls) :
      Frugal none (.error e) calls

namespace Frugal

variable {memo : Memo} {o : Except LaunchError (Bool × Memo)} {calls calls' : List BackendCall}

/-- What a first part remembers, a second does not look for again. -/
theorem append {pass : Bool} {memo' : Memo} (h : Frugal memo (.ok (pass, memo')) calls)
    (h' : Frugal memo' o calls') : Frugal memo o (calls ++ calls') := by
  cases h with
  | kept flags =>
    cases h' with
    | kept flags' => exact .kept (flags.append flags')
    | found once => exact .found (flags.append_looksOnce once)
    | failed once => exact .failed (flags.append_looksOnce once)
  | found once =>
    cases h' with
    | kept flags => exact .found (FlagsOnly.looksOnce_append once flags)

end Frugal

theorem logs_document (memo : Memo) (s : σ) :
    Logs (document b.recorded r memo) (document b r memo) s
      (fun calls => LooksOnce calls ∧ (memo ≠ none → calls = [])) := by
  cases memo with
  | some found => exact Logs.pure ⟨FlagsOnly.nil.looksOnce, fun _ => rfl⟩
  | none =>
    refine (Logs.tryCatch (Signals.logs_resolve b r s) fun e _ => Logs.throw rfl).weaken ?_
    exact fun calls once => ⟨once, fun other => absurd rfl other⟩

theorem logs_passes (memo : Memo) (g : Guard) (s : σ) :
    Logs (passes b.recorded r memo g) (passes b r memo g) s
      (Frugal memo (outcome (passes b r memo g) s)) := by
  match g with
  | .flag name enabled =>
    refine Logs.bind (Logs.flag b name r s) (Q := fun _ => (· = [])) ?_ ?_ ?_
    · exact fun answer _ => Logs.pure rfl
    · rintro answer _ _ - rfl rfl
      exact .kept (FlagsOnly.flag name)
    · intro e _ failed
      cases failed
  | .predicate .mayConfigure expected => exact Logs.pure (.kept FlagsOnly.nil)
  | .predicate (.document p) expected =>
    refine Logs.bind (logs_document memo s) (Q := fun _ => (· = [])) ?_ ?_ ?_
    · exact fun found _ => Logs.pure rfl
    · rintro found calls _ came ⟨once, quiet⟩ rfl
      have out : outcome (passes b r memo (.predicate (.document p) expected)) s =
        .ok (p.holds found == expected, some found) := outcome_bind_ok came
      rw [out, List.append_nil]
      cases memo with
      | none => exact .found once
      | some document =>
        obtain rfl : document = found := Except.ok.inj came
        rw [quiet (by simp)]
        exact .kept FlagsOnly.nil
    · rintro e calls came ⟨once, -⟩
      obtain ⟨rfl, -⟩ := document_error came
      have out : outcome (passes b r none (.predicate (.document p) expected)) s = .error e :=
        outcome_bind_error came
      rw [out]
      exact .failed once

theorem logs_passesAll (memo : Memo) (gs : List Guard) (s : σ) :
    Logs (passesAll b.recorded r memo gs) (passesAll b r memo gs) s
      (Frugal memo (outcome (passesAll b r memo gs) s)) := by
  induction gs generalizing memo s with
  | nil => exact Logs.pure (.kept FlagsOnly.nil)
  | cons g gs ih =>
    let rest (x : Bool × Memo) : LaunchM σ (Bool × Memo) :=
      if x.1 then passesAll b r x.2 gs else return (false, x.2)
    refine Logs.bind (logs_passes memo g s)
      (Q := fun x => Frugal x.2 (outcome (rest x) (after (passes b r memo g) s))) ?_ ?_ ?_
    · rintro ⟨pass, memo'⟩ -
      cases pass with
      | true => exact ih memo' _
      | false => exact Logs.pure (.kept FlagsOnly.nil)
    · rintro ⟨pass, memo'⟩ calls calls' came first later
      have out : outcome (passesAll b r memo (g :: gs)) s =
        outcome (rest (pass, memo')) (after (passes b r memo g) s) := outcome_bind_ok came
      rw [came] at first
      rw [out]
      exact first.append later
    · intro e calls came first
      have out : outcome (passesAll b r memo (g :: gs)) s = .error e := outcome_bind_error came
      rw [came] at first
      rw [out]
      cases first with
      | failed once => exact .failed once

theorem logs_firstMatch (memo : Memo) (cs : List (Candidate η)) (s : σ) :
    Logs (firstMatch b.recorded r memo cs) (firstMatch b r memo cs) s fun calls =>
      LooksOnce calls ∧ (memo ≠ none → FlagsOnly calls) := by
  induction cs generalizing memo s with
  | nil => exact Logs.pure ⟨FlagsOnly.nil.looksOnce, fun _ => FlagsOnly.nil⟩
  | cons c cs ih =>
    refine Logs.bind (logs_passesAll memo c.guards.guards s)
      (Q := fun x calls => LooksOnce calls ∧ (x.2 ≠ none → FlagsOnly calls)) ?_ ?_ ?_
    · rintro ⟨pass, memo'⟩ -
      cases pass with
      | true => exact Logs.pure ⟨FlagsOnly.nil.looksOnce, fun _ => FlagsOnly.nil⟩
      | false => exact ih memo' _
    · rintro ⟨pass, memo'⟩ calls calls' came first ⟨once, quiet⟩
      rw [came] at first
      cases first with
      | kept flags =>
        exact ⟨flags.append_looksOnce once, fun known => flags.append (quiet known)⟩
      | found looked =>
        exact ⟨FlagsOnly.looksOnce_append looked (quiet (by simp)), fun known => absurd rfl known⟩
    · intro e calls came first
      rw [came] at first
      cases first with
      | failed once => exact ⟨once, fun known => absurd rfl known⟩

/-! ### Runs that look for no document -/

theorem exists_judged_of_cheap {g : Guard} (cheap : g.cost < 2) (p : Point σ) :
    ∃ pass s, Judged b r p g pass (s, p.2) := by
  match g with
  | .flag name enabled =>
    exact ⟨_, after (liftM (b.flagEnabled name r) : LaunchM σ Bool) p.1, rfl⟩
  | .predicate .mayConfigure expected => exact ⟨_, p.1, rfl⟩
  | .predicate (.document _) _ => exact absurd cheap (Nat.lt_irrefl 2)

theorem logs_passes_of_judged {p : Point σ} {s : σ} {g : Guard} {pass : Bool}
    (judged : Judged b r p g pass (s, p.2)) :
    Logs (passes b.recorded r p.2 g) (passes b r p.2 g) p.1 FlagsOnly := by
  have out := outcome_of_run judged
  refine (logs_passes p.2 g p.1).weaken fun calls frugal => ?_
  rw [out] at frugal
  generalize p.2 = memo at frugal
  cases frugal with
  | kept flags => exact flags

/-- Guards in order of cost that are refused by the cheap ones among them, if they ask about the
document at all, do not come to ask. -/
theorem logs_passesAll_of_spared (ordered : gs.Pairwise fun g h => g.cost ≤ h.cost) (p : Point σ)
    (spared : (∃ g ∈ gs, g.cost = 2) → ∃ z, Refused b r p (gs.filter (·.cost < 2)) z) :
    Logs (passesAll b.recorded r p.2 gs) (passesAll b r p.2 gs) p.1 FlagsOnly ∧
      ∃ pass, outcome (passesAll b r p.2 gs) p.1 = .ok (pass, p.2) := by
  induction gs generalizing p with
  | nil => exact ⟨Logs.pure FlagsOnly.nil, true, rfl⟩
  | cons g gs ih =>
    obtain ⟨least, ordered⟩ := List.pairwise_cons.mp ordered
    have bound := g.cost_le_two
    by_cases cheap : g.cost < 2
    · rw [List.filter_cons_of_pos (by simpa using cheap)] at spared
      obtain ⟨pass, s, judged⟩ := exists_judged_of_cheap (b := b) (r := r) cheap p
      have came := outcome_of_run judged
      have first := logs_passes_of_judged judged
      cases pass with
      | false =>
        have run : (passesAll b r p.2 (g :: gs)).run.run p.1 = _ := passesAll_cons_refused judged
        refine ⟨?_, false, outcome_of_run run⟩
        refine Logs.bind first (Q := fun _ => (· = [])) ?_ ?_ (fun _ _ _ flags => flags)
        · rintro x same
          rw [came] at same
          cases same
          exact Logs.pure rfl
        · rintro _ calls _ - flags rfl
          rwa [List.append_nil]
      | true =>
        have run : (passesAll b r p.2 (g :: gs)).run.run p.1 = _ := passesAll_cons judged
        have world := after_of_run judged
        obtain ⟨later, pass, out⟩ := ih ordered (s, p.2) fun ⟨h, mem, cost⟩ => by
          obtain ⟨z, refused⟩ := spared ⟨h, List.mem_cons_of_mem _ mem, cost⟩
          cases refused with
          | here failed => exact absurd (judged.unique failed).1 (by simp)
          | later passed rest =>
            obtain ⟨-, rfl⟩ := judged.unique passed
            exact ⟨z, rest⟩
        refine ⟨?_, pass, (congrArg Prod.fst run).trans out⟩
        refine Logs.bind first (Q := fun _ => FlagsOnly) ?_ (fun _ _ _ _ => FlagsOnly.append)
          (fun _ _ _ flags => flags)
        rintro x same
        rw [came] at same
        cases same
        rw [world]
        exact later
    -- no cheap guard can follow a costly one, so nothing refuses the guards before it
    · have none : (g :: gs).filter (·.cost < 2) = [] := by
        rw [List.filter_eq_nil_iff]
        intro h mem
        rcases List.mem_cons.mp mem with rfl | mem
        · simpa using cheap
        · have above := least h mem
          simp only [decide_eq_true_eq]
          omega
      rw [none] at spared
      obtain ⟨z, refused⟩ := spared ⟨g, List.mem_cons_self, by omega⟩
      cases refused

theorem logs_firstMatch_of_spared (p : Point σ) (spared : Spared b r p cs) :
    Logs (firstMatch b.recorded r p.2 cs) (firstMatch b r p.2 cs) p.1 FlagsOnly := by
  induction cs generalizing p with
  | nil => exact Logs.pure FlagsOnly.nil
  | cons c cs ih =>
    obtain ⟨first, pass, out⟩ := logs_passesAll_of_spared c.guards.ordered p
      fun costly => spared [] c cs p rfl (.nil p) costly
    refine Logs.bind first (Q := fun _ => FlagsOnly) ?_ (fun _ _ _ _ => FlagsOnly.append)
      (fun _ _ _ flags => flags)
    intro x same
    rw [out] at same
    cases same
    cases pass with
    | true => exact Logs.pure FlagsOnly.nil
    | false =>
      refine ih (after (passesAll b r p.2 c.guards.guards) p.1, p.2) fun before d rest q split all => ?_
      refine spared (c :: before) d rest q (by rw [split]; rfl) (.cons ?_ all)
      rcases passesAll_cases (b := b) (r := r) p c.guards.guards with
        ⟨z, run, -⟩ | ⟨z, run, refused⟩ | ⟨e, failed, -⟩
      · rw [outcome, run] at out
        simp at out
      · rw [outcome, run] at out
        have memo : z.2 = p.2 := by simpa using out
        rw [after, run, ← memo]
        exact refused
      · rw [failed] at out
        cases out

end LtiLaunch.Selection
