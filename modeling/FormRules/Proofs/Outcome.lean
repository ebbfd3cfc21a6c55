/-
This file says how a run of the command ends: it succeeds, it finds a value that does not pass, it is stopped
by an error, or it was given too few or too many arguments. The exit code and what is written to the error
stream tell which, and values are not opened after definitions that cannot be used.
-/

import FormRules.Proofs.Loading
import FormRules.Proofs.Pointwise
import FormRules.Proofs.Stages
import FormRules.StandIn

namespace FormRules.Command

theorem failed_stderr_ne_empty (stdout : String) (failure : Failure) : (failed stdout failure).stderr ≠ "" := by
  simp [failed]

theorem usage_ne_empty (program : String) : usage program ≠ "" := by
  simp [usage]

section Runs

variable [Pattern.Engine] [Json.Diagnostics]

/-- The file holds the definitions of a form that can be used with the standard rules. -/
def Sound (contents : Contents) (form : Form) : Prop :=
  Holds contents form ∧ Form.verify .standard form = .ok ()

/-- Why the file holds no definitions that can be used. -/
inductive Unsound (contents : Contents) : Failure → Prop
  | unloadable {failure : Failure} (why : Unloadable contents failure) : Unsound contents failure
  | flawed {form : Form} {error : FormError} (holds : Holds contents form)
      (failed : Form.verify .standard form = .error error) : Unsound contents (.form error)

/-- After the name of the program, one argument names a file of definitions that can be used, or the first of
two does and the second one names a file of values that all fields accept. -/
inductive Succeeds (read : FileReader) : List String → Prop
  | definitions {program definitions : String} {form : Form} (sound : Sound (read definitions) form) :
      Succeeds read [program, definitions]
  | values {program definitions values : String} {form : Form} {submitted : NameMap String}
      (sound : Sound (read definitions) form) (holds : Holds (read values) submitted)
      (accepted : Form.Accepts .standard form submitted) : Succeeds read [program, definitions, values]

/-- There is nothing wrong with either file but a value that its field does not accept. -/
inductive Rejects (read : FileReader) : List String → Prop
  | values {program definitions values : String} {form : Form} {submitted : NameMap String}
      (sound : Sound (read definitions) form) (holds : Holds (read values) submitted)
      (rejected : ¬ Form.Accepts .standard form submitted) : Rejects read [program, definitions, values]

/-- What stops a run: definitions that cannot be used or, after those that can, values that cannot be
loaded. -/
inductive Stops (read : FileReader) : List String → Failure → Prop
  | definitions {program definitions : String} {failure : Failure}
      (unsound : Unsound (read definitions) failure) : Stops read [program, definitions] failure
  | definitionsBeforeValues {program definitions values : String} {failure : Failure}
      (unsound : Unsound (read definitions) failure) : Stops read [program, definitions, values] failure
  | values {program definitions values : String} {form : Form} {failure : Failure}
      (sound : Sound (read definitions) form) (unloadable : Unloadable (read values) failure) :
      Stops read [program, definitions, values] failure

/-- After the name of the program there are no arguments, or more than two. -/
def Miscounted (arguments : List String) : Prop :=
  arguments.length < 2 ∨ 3 < arguments.length

variable {read : FileReader} {contents : Contents} {path : String} {form : Form} {failure : Failure}

theorem sound_or_unsound (contents : Contents) :
    (∃ form, Sound contents form) ∨ ∃ failure, Unsound contents failure := by
  rcases holds_or_unloadable contents with ⟨form, holds⟩ | ⟨failure, unloadable⟩
  · cases verified : Form.verify .standard form with
    | ok result => exact .inl ⟨form, holds, verified⟩
    | error error => exact .inr ⟨_, .flawed holds verified⟩
  · exact .inr ⟨failure, .unloadable unloadable⟩

theorem checkDefinitions_of_sound (path : String) (sound : Sound contents form) :
    ∃ stdout, checkDefinitions .standard path contents = (stdout, .ok form) := by
  obtain ⟨holds, verified⟩ := sound
  obtain ⟨lines, -, checked⟩ := exists_fieldLines_of_verify path (load_of_holds holds) verified
  exact ⟨_, checked⟩

theorem checkDefinitions_of_unsound (path : String) (unsound : Unsound contents failure) :
    ∃ stdout, checkDefinitions .standard path contents = (stdout, .error failure) := by
  cases unsound with
  | unloadable why => exact ⟨_, checkDefinitions_of_load_eq_error path (load_of_unloadable why)⟩
  | flawed holds failed =>
      exact ⟨_, checkDefinitions_of_verify_eq_error path (load_of_holds holds) failed⟩

/-- After definitions that can be used, the values that can be loaded are all checked. -/
theorem checkValues_of_holds (path : String) {submitted : NameMap String}
    (verified : Form.verify .standard form = .ok ()) (holds : Holds contents submitted) :
    ∃ lines passed, checkValues .standard form path contents = (lines, .ok passed) ∧
      (passed = true ↔ Form.Accepts .standard form submitted) := by
  have known : Rulebook.standard.rules ⊆ Rule.standard ++ Rule.extra := List.subset_append_left _ _
  obtain ⟨report, validated, -⟩ := Form.validate_of_verify known verified submitted
  exact ⟨_, _, checkValues_of_validate path (load_of_holds holds) validated,
    Form.isValid_iff_accepts validated⟩

/-- A run goes on after definitions that can be used. -/
theorem withDefinitions_of_sound (sound : Sound (read path) form) (next : String → Form → Session) :
    ∃ stdout, (withDefinitions path next).outcome read = (next stdout form).outcome read ∧
      (withDefinitions path next).opened read = path :: (next stdout form).opened read := by
  obtain ⟨stdout, checked⟩ := checkDefinitions_of_sound path sound
  refine ⟨stdout, outcome_withDefinitions_of_ok checked next, ?_⟩
  simp only [withDefinitions, Session.opened, checked]

/-- A run ends after definitions that cannot be used, and opens no other file. -/
theorem withDefinitions_of_unsound (unsound : Unsound (read path) failure)
    (next : String → Form → Session) :
    (∃ stdout, (withDefinitions path next).outcome read = failed stdout failure) ∧
      (withDefinitions path next).opened read = [path] := by
  obtain ⟨stdout, checked⟩ := checkDefinitions_of_unsound path unsound
  refine ⟨⟨stdout, outcome_withDefinitions_of_error checked next⟩, ?_⟩
  simp only [withDefinitions, Session.opened, checked]

theorem withValues_of_holds {submitted : NameMap String} (stdout : String)
    (verified : Form.verify .standard form = .ok ()) (holds : Holds (read path) submitted) :
    ∃ lines passed, (withValues path stdout form).outcome read = ⟨if passed then 0 else 1, lines, ""⟩ ∧
      (passed = true ↔ Form.Accepts .standard form submitted) := by
  obtain ⟨lines, passed, checked, accepts⟩ := checkValues_of_holds path verified holds
  exact ⟨stdout ++ lines, passed, outcome_withValues_of_ok checked, accepts⟩

theorem withValues_of_unloadable (stdout : String) (form : Form)
    (unloadable : Unloadable (read path) failure) :
    ∃ lines, (withValues path stdout form).outcome read = failed lines failure := by
  have failed := checkValues_of_load_eq_error form path (load_of_unloadable unloadable)
  exact ⟨_, outcome_withValues_of_error failed⟩

/-- The check of values opens one file, and the run ends with it. -/
theorem opened_withValues (path stdout : String) (form : Form) :
    (withValues path stdout form).opened read = [path] := by
  rw [withValues, Session.opened]
  rcases checkValues .standard form path (read path) with ⟨lines, failure | passed⟩ <;> rfl

variable {arguments : List String}

theorem run_of_succeeds (succeeds : Succeeds read arguments) :
    ∃ stdout, run read arguments = ⟨0, stdout, ""⟩ := by
  cases succeeds with
  | definitions sound =>
      obtain ⟨stdout, ends, -⟩ := withDefinitions_of_sound sound fun stdout _ => .done ⟨0, stdout, ""⟩
      exact ⟨stdout, ends⟩
  | @values program definitions values form submitted sound holds accepted =>
      obtain ⟨stdout, goesOn, -⟩ := withDefinitions_of_sound sound (withValues values)
      obtain ⟨lines, passed, ends, accepts⟩ := withValues_of_holds stdout sound.2 holds
      rw [accepts.2 accepted] at ends
      exact ⟨lines, goesOn.trans ends⟩

theorem run_of_rejects (rejects : Rejects read arguments) :
    ∃ stdout, run read arguments = ⟨1, stdout, ""⟩ := by
  cases rejects with
  | @values program definitions values form submitted sound holds rejected =>
      obtain ⟨stdout, goesOn, -⟩ := withDefinitions_of_sound sound (withValues values)
      obtain ⟨lines, passed, ends, accepts⟩ := withValues_of_holds stdout sound.2 holds
      have fails : passed = false := Bool.eq_false_iff.2 (mt accepts.1 rejected)
      rw [fails] at ends
      exact ⟨lines, goesOn.trans ends⟩

theorem run_of_stops (stops : Stops read arguments failure) :
    ∃ stdout, run read arguments = failed stdout failure := by
  cases stops with
  | definitions unsound => exact (withDefinitions_of_unsound unsound _).1
  | definitionsBeforeValues unsound => exact (withDefinitions_of_unsound unsound _).1
  | @values program definitions values form failure sound unloadable =>
      obtain ⟨stdout, goesOn, -⟩ := withDefinitions_of_sound sound (withValues values)
      obtain ⟨lines, ends⟩ := withValues_of_unloadable stdout form unloadable
      exact ⟨lines, goesOn.trans ends⟩

theorem run_of_miscounted (miscounted : Miscounted arguments) :
    run read arguments = ⟨1, "", usage (arguments.head?.getD "rule-check")⟩ := by
  match arguments, miscounted with
  | [], _ => rfl
  | [_], _ => rfl
  | [_, _], miscounted => simp [Miscounted] at miscounted
  | [_, _, _], miscounted => simp [Miscounted] at miscounted
  | _ :: _ :: _ :: _ :: _, _ => rfl

/-- There is no other way for a run to end. -/
theorem run_cases (read : FileReader) (arguments : List String) :
    Succeeds read arguments ∨ Rejects read arguments ∨ Miscounted arguments ∨
      ∃ failure, Stops read arguments failure := by
  match arguments with
  | [] | [_] => exact .inr (.inr (.inl (.inl (by simp))))
  | [_, definitions] =>
      rcases sound_or_unsound (read definitions) with ⟨form, sound⟩ | ⟨failure, unsound⟩
      · exact .inl (.definitions sound)
      · exact .inr (.inr (.inr ⟨failure, .definitions unsound⟩))
  | [_, definitions, values] =>
      rcases sound_or_unsound (read definitions) with ⟨form, sound⟩ | ⟨failure, unsound⟩
      · rcases holds_or_unloadable (read values) with ⟨submitted, holds⟩ | ⟨failure, unloadable⟩
        · by_cases accepted : Form.Accepts .standard form submitted
          · exact .inl (.values sound holds accepted)
          · exact .inr (.inl (.values sound holds accepted))
        · exact .inr (.inr (.inr ⟨failure, .values sound unloadable⟩))
      · exact .inr (.inr (.inr ⟨failure, .definitionsBeforeValues unsound⟩))
  | _ :: _ :: _ :: _ :: rest =>
      have many : 3 < rest.length + 4 := by omega
      exact .inr (.inr (.inl (.inr many)))

/-- Whatever keeps a run from success, it exits with 1. -/
theorem succeeds_or_exit_eq_one (read : FileReader) (arguments : List String) :
    Succeeds read arguments ∨ (run read arguments).exit = 1 := by
  rcases run_cases read arguments with succeeds | rejects | miscounted | ⟨failure, stops⟩
  · exact .inl succeeds
  · obtain ⟨stdout, ends⟩ := run_of_rejects rejects
    exact .inr (by rw [ends])
  · exact .inr (by rw [run_of_miscounted miscounted])
  · obtain ⟨stdout, ends⟩ := run_of_stops stops
    exact .inr (by rw [ends]; rfl)

theorem exit_eq_zero_iff : (run read arguments).exit = 0 ↔ Succeeds read arguments := by
  constructor
  · intro zero
    rcases succeeds_or_exit_eq_one read arguments with succeeds | one
    · exact succeeds
    · rw [zero] at one
      cases one
  · intro succeeds
    obtain ⟨stdout, ends⟩ := run_of_succeeds succeeds
    rw [ends]

theorem exit_eq_one_iff : (run read arguments).exit = 1 ↔ ¬ Succeeds read arguments := by
  constructor
  · intro one succeeds
    rw [exit_eq_zero_iff.2 succeeds] at one
    cases one
  · intro fails
    exact (succeeds_or_exit_eq_one read arguments).resolve_left fails

theorem stderr_of_stops (stops : Stops read arguments failure) :
    (run read arguments).stderr = "❌ " ++ failure.message ++ "\n" := by
  obtain ⟨stdout, ends⟩ := run_of_stops stops
  rw [ends]
  rfl

theorem stderr_eq_empty_iff :
    (run read arguments).stderr = "" ↔ Succeeds read arguments ∨ Rejects read arguments := by
  constructor
  · intro silent
    rcases run_cases read arguments with succeeds | rejects | miscounted | ⟨failure, stops⟩
    · exact .inl succeeds
    · exact .inr rejects
    · rw [run_of_miscounted miscounted] at silent
      exact absurd silent (usage_ne_empty _)
    · obtain ⟨stdout, ends⟩ := run_of_stops stops
      rw [ends] at silent
      exact absurd silent (failed_stderr_ne_empty stdout failure)
  · rintro (succeeds | rejects)
    · obtain ⟨stdout, ends⟩ := run_of_succeeds succeeds
      rw [ends]
    · obtain ⟨stdout, ends⟩ := run_of_rejects rejects
      rw [ends]

/-- The exit code tells whether the run succeeds. Nothing is written to the error stream if it does, or if all
that is wrong is a value that its field does not accept. Otherwise there are too few or too many arguments,
and the usage is written, or there is an error that stops the run, and its message is all that is written.
The values are opened if the definitions can be used, and only then. -/
theorem exit_and_errors_tell_what_happened (read : FileReader) (arguments : List String) :
    ((run read arguments).exit = 0 ↔ Succeeds read arguments) ∧
    ((run read arguments).exit = 1 ↔ ¬ Succeeds read arguments) ∧
    ((run read arguments).stderr = "" ↔
      (run read arguments).exit = 0 ∨ Rejects read arguments) ∧
    ((run read arguments).stderr = "" ∨ Miscounted arguments ∨ ∃ failure, Stops read arguments failure) ∧
    (Miscounted arguments →
      (run read arguments).stderr = usage (arguments.head?.getD "rule-check")) ∧
    (∀ failure, Stops read arguments failure →
      (run read arguments).stderr = "❌ " ++ failure.message ++ "\n") ∧
    (∀ program definitions values,
      ((∃ failure, Unsound (read definitions) failure) →
        (session [program, definitions, values]).opened read = [definitions]) ∧
      ((∃ form, Sound (read definitions) form) →
        (session [program, definitions, values]).opened read = [definitions, values])) := by
  refine ⟨exit_eq_zero_iff, exit_eq_one_iff, ?_, ?_, ?_, fun failure => stderr_of_stops, ?_⟩
  · rw [exit_eq_zero_iff]
    exact stderr_eq_empty_iff
  · rcases run_cases read arguments with succeeds | rejects | miscounted | stops
    · exact .inl (stderr_eq_empty_iff.2 (.inl succeeds))
    · exact .inl (stderr_eq_empty_iff.2 (.inr rejects))
    · exact .inr (.inl miscounted)
    · exact .inr (.inr stops)
  · intro miscounted
    rw [run_of_miscounted miscounted]
  · intro program definitions values
    constructor
    · intro unusable
      obtain ⟨failure, unsound⟩ := unusable
      exact (withDefinitions_of_unsound unsound (withValues values)).2
    · intro usable
      obtain ⟨form, sound⟩ := usable
      obtain ⟨stdout, -, opens⟩ := withDefinitions_of_sound sound (withValues values)
      exact opens.trans (congrArg (definitions :: ·) (opened_withValues values stdout form))

end Runs

/-- Definitions that can be used and definitions that cannot, with an age of each kind. -/
def ageFiles : Directory where
  files := [
    ("age.json", "\x7b\"age\":\"required; min:18\"\x7d".toUTF8),
    ("flawed.json", "\x7b\"age\":\"required; min\"\x7d".toUTF8),
    ("adult.json", "\x7b\"age\":\"20\"\x7d".toUTF8),
    ("minor.json", "\x7b\"age\":\"17\"\x7d".toUTF8)]

open scoped StandIn

/-- An age that is accepted, an age that is not, and a flawed definition that keeps an age from being read. -/
theorem runs_on_age_files :
    (run ageFiles.reader ["rule-check", "age.json", "adult.json"]).exit = 0 ∧
    ((run ageFiles.reader ["rule-check", "age.json", "minor.json"]).exit = 1 ∧
      (run ageFiles.reader ["rule-check", "age.json", "minor.json"]).stderr = "") ∧
    ((run ageFiles.reader ["rule-check", "flawed.json", "adult.json"]).stderr =
        "❌ " ++ (Failure.form (.definition "age" (.missingExpectation "min"))).message ++ "\n" ∧
      (session ["rule-check", "flawed.json", "adult.json"]).opened ageFiles.reader = ["flawed.json"]) := by
  have sound : Sound (ageFiles.reader "age.json") (.ofList [("age", "required; min:18")]) := by
    refine ⟨⟨"\x7b\"age\":\"required; min:18\"\x7d", [("age", "required; min:18")], rfl, rfl, rfl⟩, ?_⟩
    decide +kernel
  have unsound : Unsound (ageFiles.reader "flawed.json")
      (.form (.definition "age" (.missingExpectation "min"))) := by
    refine .flawed ⟨"\x7b\"age\":\"required; min\"\x7d", [("age", "required; min")], rfl, rfl, rfl⟩ ?_
    decide +kernel
  have adult : Holds (ageFiles.reader "adult.json") (.ofList [("age", "20")]) :=
    ⟨"\x7b\"age\":\"20\"\x7d", [("age", "20")], rfl, rfl, rfl⟩
  have minor : Holds (ageFiles.reader "minor.json") (.ofList [("age", "17")]) :=
    ⟨"\x7b\"age\":\"17\"\x7d", [("age", "17")], rfl, rfl, rfl⟩
  have accepted : Form.Accepts .standard (.ofList [("age", "required; min:18")])
      (.ofList [("age", "20")]) := by
    have validated : Form.validate .standard (.ofList [("age", "required; min:18")])
        (.ofList [("age", "20")]) = .ok (.ofList [("age", .checked [])]) := by
      decide +kernel
    exact (Form.isValid_iff_accepts validated).1 (by decide +kernel)
  have rejected : ¬ Form.Accepts .standard (.ofList [("age", "required; min:18")])
      (.ofList [("age", "17")]) := by
    have validated : Form.validate .standard (.ofList [("age", "required; min:18")])
        (.ofList [("age", "17")]) = .ok (.ofList [("age", .checked [⟨"min", some "18"⟩])]) := by
      decide +kernel
    exact mt (Form.isValid_iff_accepts validated).2 (by decide +kernel)
  have rejects : Rejects ageFiles.reader ["rule-check", "age.json", "minor.json"] :=
    .values sound minor rejected
  obtain ⟨exits, -⟩ :=
    exit_and_errors_tell_what_happened ageFiles.reader ["rule-check", "age.json", "adult.json"]
  obtain ⟨stdout, ends⟩ := run_of_rejects rejects
  obtain ⟨-, -, silent, -⟩ :=
    exit_and_errors_tell_what_happened ageFiles.reader ["rule-check", "age.json", "minor.json"]
  obtain ⟨-, -, -, -, -, stopped, opened⟩ :=
    exit_and_errors_tell_what_happened ageFiles.reader ["rule-check", "flawed.json", "adult.json"]
  refine ⟨exits.2 (.values sound adult accepted), ⟨?_, ?_⟩, ?_, ?_⟩
  · rw [ends]
  · exact silent.2 (.inr rejects)
  · exact stopped _ (.definitionsBeforeValues unsound)
  · exact (opened "rule-check" "flawed.json" "adult.json").1 ⟨_, unsound⟩

end FormRules.Command
