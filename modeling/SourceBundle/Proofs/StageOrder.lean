import SourceBundle.Proofs.BuildCourses

/-! # Stage order — a build goes forward

    A build may be asked to enter any stage at any time, and asked on after it has
    refused one.  Whatever it is asked, the stages it enters are those on the way to
    the one where it stands (`Build.way_standing`), and a way is in order
    (`InOrder`) and never comes back.  A request is granted exactly where the order
    goes on with it, and one that is refused leaves everything as it was.

    A run asks for the next stage only, so it is refused none
    (`Build.run_ne_transition`), and the stage at its end tells what came of it
    (`Build.stage_eq_iff`). -/

namespace SourceBundle

/-! ## The order of the stages -/

/-- The stages that are entered on the way to a stage. -/
def Stage.way : Stage → List Stage
  | .start => []
  | .bundling => [.bundling]
  | .writing => [.bundling, .writing]
  | .compiling => [.bundling, .writing, .compiling]
  | .success => [.bundling, .writing, .compiling, .success]
  | .failure => [.bundling, .writing, .compiling, .failure]

/-- These stages follow one another from the start on: first bundling, then writing,
    then compiling, and at the end success or failure. -/
def InOrder (stages : List Stage) : Prop :=
  ∃ last ∈ [Stage.success, Stage.failure],
    stages <+: [.bundling, .writing, .compiling, last]

instance (stages : List Stage) : Decidable (InOrder stages) :=
  inferInstanceAs (Decidable (∃ last ∈ [Stage.success, Stage.failure],
    stages <+: [.bundling, .writing, .compiling, last]))

namespace Stage

variable {current next : Stage}

/-- A stage may be entered where the way to it is longer by the stage alone. -/
theorem way_of_canAdvanceTo (h : current.canAdvanceTo next = true) :
    next.way = current.way ++ [next] := by
  cases current <;> cases next <;> first | rfl | exact nomatch h

/-- In order a way goes on with the stages that may be entered, and with no other. -/
theorem inOrder_append_iff :
    InOrder (current.way ++ [next]) ↔ current.canAdvanceTo next = true := by
  cases current <;> cases next <;> decide

/-- The way to a stage is in order. -/
theorem inOrder_way (s : Stage) : InOrder s.way := by
  cases s <;> decide

/-- No stage is twice on a way. -/
theorem nodup_way (s : Stage) : s.way.Nodup := by
  cases s <;> decide

/-- A way ends where it leads. -/
theorem getLast_way (s : Stage) : s.way.getLast?.getD .start = s := by
  cases s <;> rfl

/-- Two letters tell a stage. -/
theorem eq_of_take_name {s t : Stage}
    (h : s.name.toList.take 2 = t.name.toList.take 2) : s = t := by
  cases s <;> cases t <;> simp [name] at h ⊢

theorem two_le_length_name (s : Stage) : 2 ≤ s.name.toList.length := by
  cases s <;> simp [name]

end Stage

/-! ## The wording of a refusal -/

namespace InvalidTransition

/-- The message names both stages, the one left first. -/
theorem toList_message (t : InvalidTransition) :
    t.message.toList = "invalid build transition from ".toList
      ++ (t.source.name.toList ++ (" to ".toList ++ t.target.name.toList)) := by
  unfold message
  -- the words around the names need not be taken apart
  generalize "invalid build transition from " = words, " to " = between
  rw [String.toList_append, String.toList_append, String.toList_append, List.append_assoc,
    List.append_assoc]

/-- The wording tells the stage where the build stands and the one it was asked for. -/
theorem message_injective : Function.Injective message := by
  intro t t' h
  have hchars := congrArg String.toList h
  rw [toList_message, toList_message] at hchars
  have hnames := List.append_cancel_left hchars
  have hsource : t.source = t'.source := by
    have htake := congrArg (List.take 2) hnames
    rw [List.take_append_of_le_length t.source.two_le_length_name,
      List.take_append_of_le_length t'.source.two_le_length_name] at htake
    exact Stage.eq_of_take_name htake
  rw [hsource] at hnames
  have hrest := List.append_cancel_left (List.append_cancel_left hnames)
  have htarget : t.target = t'.target :=
    Stage.eq_of_take_name (congrArg (List.take 2) hrest)
  cases t
  cases t'
  rw [InvalidTransition.mk.injEq]
  exact ⟨hsource, htarget⟩

end InvalidTransition

/-! ## Requests -/

/-- What a build has done when a part of it is over, whichever way it ended. -/
def Progress.afterwards {α : Type} : EStateM.Result BuildError Progress α → Progress
  | .ok _ p => p
  | .error _ p => p

namespace Build

/-- What a build has done after it was asked to enter these stages, one after
    another. -/
def standing (p : Progress) : (requests : List Stage) → Progress
  | [] => p
  | next :: requests => standing (Progress.afterwards (enter next p)) requests

/-- The stages that it entered on these requests. -/
def entered (p : Progress) : (requests : List Stage) → List Stage
  | [] => []
  | next :: requests =>
      match enter next p with
      | .ok _ p => p.stage :: entered p requests
      | .error _ p => entered p requests

variable {p : Progress} {next : Stage}

/-- A request that may not be granted is refused, and nothing else happens. -/
theorem enter_of_not_canAdvance (h : ¬ p.stage.canAdvanceTo next = true) :
    enter next p = .error (.transition ⟨p.stage, next⟩) p := by
  unfold enter Stage.advance
  rw [if_neg h]

/-- **THE WAY OF A BUILD**: the stages it enters lead from where it stood to where it
    stands. -/
theorem way_standing (p : Progress) (requests : List Stage) :
    (standing p requests).stage.way = p.stage.way ++ entered p requests := by
  induction requests generalizing p with
  | nil => exact (List.append_nil _).symm
  | cons next requests ih =>
      by_cases h : p.stage.canAdvanceTo next = true
      · rw [standing, entered, enter_of_canAdvance h, List.append_cons,
          ← Stage.way_of_canAdvanceTo h]
        exact ih { p with stage := next }
      · rw [standing, entered, enter_of_not_canAdvance h]
        exact ih p

/-- A new build has entered the stages on the way to where it stands. -/
theorem entered_fresh (files : FileSystem) (requests : List Stage) :
    entered (fresh files) requests = (standing (fresh files) requests).stage.way :=
  (way_standing (fresh files) requests).symm

/-! ## Runs -/

section Runs

variable {launch : Launcher} {host : Host} {s : BuildSettings}

/-- A run that comes to an outcome ends at the outcome's stage. -/
theorem stage_of_ok {outcome : Outcome} (h : run launch host s = .ok outcome p) :
    p.stage = outcome.stage := by
  have hcourse := course_run launch host s
  rw [h] at hcourse
  cases hcourse with
  | compiled => rfl

/-- A run that stops ends at the stage where it failed, and it was not refused one. -/
theorem stage_of_error {cause : BuildError} (h : run launch host s = .error cause p) :
    (p.stage = .bundling ∧ ∃ why, cause = .bundle why) ∨
      (p.stage = .writing ∧ ∃ why, cause = .store why) := by
  have hcourse := course_run launch host s
  rw [h] at hcourse
  cases hcourse with
  | notBundled => exact .inl ⟨rfl, _, rfl⟩
  | notStored => exact .inr ⟨rfl, _, rfl⟩

/-- No build ends with an invalid transition. -/
theorem run_ne_transition (cause : InvalidTransition) (p : Progress) :
    run launch host s ≠ .error (.transition cause) p := by
  intro h
  rcases stage_of_error h with ⟨-, why, hcause⟩ | ⟨-, why, hcause⟩
  · exact nomatch hcause
  · exact nomatch hcause

/-- A run ends at one of the last stages with an outcome, and it is the outcome of this
    stage. -/
theorem stage_eq_iff {last : Stage} (hlast : last ∈ [Stage.success, Stage.failure]) :
    (Progress.afterwards (run launch host s)).stage = last ↔
      ∃ outcome p, run launch host s = .ok outcome p ∧ outcome.stage = last := by
  cases hrun : run launch host s with
  | ok outcome p =>
      have hstage : p.stage = outcome.stage := stage_of_ok hrun
      constructor
      · intro h
        exact ⟨outcome, p, rfl, hstage.symm.trans h⟩
      · rintro ⟨outcome', p', heq, h⟩
        obtain ⟨rfl, rfl⟩ := EStateM.Result.ok.inj heq
        exact hstage.trans h
  | error cause p =>
      constructor
      · intro h
        rcases stage_of_error hrun with ⟨hstage, -⟩ | ⟨hstage, -⟩
        · obtain rfl : .bundling = last := hstage.symm.trans h
          exact absurd hlast (by decide)
        · obtain rfl : .writing = last := hstage.symm.trans h
          exact absurd hlast (by decide)
      · rintro ⟨outcome, p', heq, -⟩
        exact nomatch heq

/-- A build ends in success exactly if that is its outcome. -/
theorem stage_eq_success_iff :
    (Progress.afterwards (run launch host s)).stage = .success ↔
      ∃ binary p, run launch host s = .ok (.success binary) p := by
  rw [stage_eq_iff (by decide)]
  constructor
  · rintro ⟨outcome, p, hrun, hstage⟩
    cases outcome with
    | success binary => exact ⟨binary, p, hrun⟩
    | failure compilation => exact nomatch hstage
  · rintro ⟨binary, p, hrun⟩
    exact ⟨_, p, hrun, rfl⟩

/-- A build ends in failure exactly if that is its outcome. -/
theorem stage_eq_failure_iff :
    (Progress.afterwards (run launch host s)).stage = .failure ↔
      ∃ compilation p, run launch host s = .ok (.failure compilation) p := by
  rw [stage_eq_iff (by decide)]
  constructor
  · rintro ⟨outcome, p, hrun, hstage⟩
    cases outcome with
    | success binary => exact nomatch hstage
    | failure compilation => exact ⟨compilation, p, hrun⟩
  · rintro ⟨compilation, p, hrun⟩
    exact ⟨_, p, hrun, rfl⟩

end Runs

/-- **FORWARD ONLY**: a new build, asked to enter any stages in any order, enters
    bundling, writing, compiling and then success or failure, as far as it comes, and
    none of them twice.  It is granted a stage exactly where the order goes on with
    it.  Else it answers with the stage where it stands and the one it was asked for,
    which the wording of the answer tells, and has changed nothing.  A run is never
    answered so, whatever its settings, its files and its compiler, and it ends in
    success or failure exactly where that is its outcome. -/
theorem goes_forward :
    (∀ (files : FileSystem) (requests : List Stage),
      InOrder (entered (fresh files) requests) ∧
      (entered (fresh files) requests).Nodup ∧
      (standing (fresh files) requests).stage
        = (entered (fresh files) requests).getLast?.getD .start ∧
      ∀ next, enter next (standing (fresh files) requests) =
        if InOrder (entered (fresh files) requests ++ [next]) then
          .ok () { standing (fresh files) requests with stage := next }
        else
          .error (.transition ⟨(standing (fresh files) requests).stage, next⟩)
            (standing (fresh files) requests)) ∧
    Function.Injective InvalidTransition.message ∧
    ∀ (launch : Launcher) (host : Host) (s : BuildSettings),
      (∀ cause p, run launch host s ≠ .error (.transition cause) p) ∧
      ((Progress.afterwards (run launch host s)).stage = .success ↔
        ∃ binary p, run launch host s = .ok (.success binary) p) ∧
      ((Progress.afterwards (run launch host s)).stage = .failure ↔
        ∃ compilation p, run launch host s = .ok (.failure compilation) p) := by
  refine ⟨?_, InvalidTransition.message_injective, ?_⟩
  · intro files requests
    rw [entered_fresh]
    generalize standing (fresh files) requests = p
    refine ⟨p.stage.inOrder_way, p.stage.nodup_way, p.stage.getLast_way.symm, ?_⟩
    intro next
    by_cases h : p.stage.canAdvanceTo next = true
    · rw [if_pos (Stage.inOrder_append_iff.mpr h), enter_of_canAdvance h]
    · rw [if_neg (mt Stage.inOrder_append_iff.mp h), enter_of_not_canAdvance h]
  · intro launch host s
    exact ⟨run_ne_transition, stage_eq_success_iff, stage_eq_failure_iff⟩

/-- A build that is asked too early, twice and backwards, and for both ends. -/
example : entered (fresh ⟨[], [], none⟩)
    [.writing, .bundling, .bundling, .writing, .start, .compiling, .failure, .success]
    = [.bundling, .writing, .compiling, .failure] := by
  decide

end Build

end SourceBundle
