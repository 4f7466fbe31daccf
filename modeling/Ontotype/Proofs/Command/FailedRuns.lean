import Mathlib.Data.List.Basic
import Ontotype.Command.Run

set_option autoImplicit false

/-! # Failed runs

A run of the command that fails has written nothing to its output, and most failures leave the disk
alone too: the input is read, the context is checked and the ontology is compiled before the output
is opened. Only the format is looked up afterwards. A run that fails for its format has therefore
created its output, or emptied it. -/

namespace Ontotype.Command

variable {r : Request} {w w' : World} {f : Failure}

/-! ## Actions in a world -/

section Actions

variable {α β : Type}

theorem run_bind (x : ExceptT Failure (StateM World) α)
    (k : α → ExceptT Failure (StateM World) β) (w : World) :
    (x >>= k).run.run w =
      match x.run.run w with
      | (.ok a, w₁) => (k a).run.run w₁
      | (.error f, w₁) => (.error f, w₁) := by
  show (ExceptT.bindCont k (x.run.run w).1).run (x.run.run w).2 = _
  obtain ⟨y, w₁⟩ : Except Failure α × World := x.run.run w
  cases y <;> rfl

theorem run_pure (a : α) (w : World) :
    (pure a : ExceptT Failure (StateM World) α).run.run w = (.ok a, w) :=
  rfl

theorem run_throw (f : Failure) (w : World) :
    (throw f : ExceptT Failure (StateM World) α).run.run w = (.error f, w) :=
  rfl

theorem run_mk (x : Except Failure α) (w : World) :
    (ExceptT.mk (pure x) : ExceptT Failure (StateM World) α).run.run w = (x, w) :=
  rfl

theorem run_lift (act : StateM World α) (w : World) :
    (liftM act : ExceptT Failure (StateM World) α).run.run w =
      (.ok (act.run w).1, (act.run w).2) :=
  rfl

theorem run_read (path : String) (w : World) :
    (World.host.read path).run w = ((w.disk.read path).mapError Refusal.message, w) :=
  rfl

theorem run_create (path : String) (w : World) :
    (World.host.create path).run w =
      match w.disk.create path with
      | .ok disk => (.ok (), { w with disk })
      | .error e => (.error e.message, w) :=
  rfl

end Actions

/-! ## Opening the output -/

/-- What is at a location once a file has been created there. Devices stay what they are. -/
def emptied : Option Entry → Option Entry
  | none | some (.file _) => some (.file [])
  | some e => some e

/-- The disk once a file has been created at a location. -/
def Disk.cleared (d : Disk) (here : Location) : Disk :=
  { d with entries := fun l => if l = here then emptied (d.entries l) else d.entries l }

/-- Creating a file changes one location, to which the path leads. -/
theorem Disk.cleared_of_create {d d' : Disk} {path : String} (h : d.create path = .ok d') :
    ∃ here, d.locateFile path = .ok here ∧ d' = d.cleared here := by
  unfold Disk.create at h
  cases hhere : d.locateFile path with
  | error e => simp [hhere, bind, Except.bind] at h
  | ok here =>
      simp only [hhere, bind, Except.bind] at h
      have hput : ∀ e, emptied (d.entries here) = some e → d.put here e = d.cleared here := by
        intro e he
        refine congrArg (Disk.mk · d.workingDirectory) (funext fun l => ?_)
        split_ifs with hl
        · rw [hl, he]
        · rfl
      have hkeep : emptied (d.entries here) = d.entries here → d = d.cleared here := by
        intro he
        refine congrArg (Disk.mk · d.workingDirectory) (funext fun l => ?_)
        split_ifs with hl
        · rw [hl, he]
        · rfl
      refine ⟨here, rfl, ?_⟩
      cases hentry : d.entries here with
      | none =>
          simp only [hentry, Except.ok.injEq] at h
          exact h ▸ hput _ (by rw [hentry]; rfl)
      | some e =>
          cases e <;> simp only [hentry, Except.ok.injEq, reduceCtorEq] at h
          case file => exact h ▸ hput _ (by rw [hentry]; rfl)
          all_goals exact h ▸ hkeep (by rw [hentry]; rfl)

/-- The world in which the output of a request is open. -/
def Request.opened (r : Request) (w : World) : Except Failure World :=
  match r.output with
  | none => .ok w
  | some path =>
    match w.disk.create path with
    | .ok disk => .ok { w with disk }
    | .error e => .error (.uncreatable e.message)

/-- How a request writes to its output. -/
def Request.writer (r : Request) : String → StateM World Unit :=
  match r.output with
  | none => World.host.out
  | some path => World.host.append path

theorem run_openOutput (r : Request) (w : World) :
    (r.openOutput World.host).run.run w =
      match r.opened w with
      | .ok w₁ => (.ok r.writer, w₁)
      | .error f => (.error f, w) := by
  unfold Request.openOutput Request.opened Request.writer
  cases r.output with
  | none => rfl
  | some path =>
      simp only [run_bind, run_lift, run_create]
      cases w.disk.create path <;> rfl

/-- Opening the output touches no stream, and the disk only where the output is. -/
theorem cleared_of_opened (h : r.opened w = .ok w') :
    (r.output = none → w' = w) ∧ ∀ path, r.output = some path →
      ∃ here, w.disk.locateFile path = .ok here ∧ w' = { w with disk := w.disk.cleared here } := by
  unfold Request.opened at h
  cases hout : r.output with
  | none =>
      simp only [hout, Except.ok.injEq] at h
      exact ⟨fun _ => h.symm, nofun⟩
  | some path =>
      simp only [hout] at h
      refine ⟨nofun, fun path' hpath => ?_⟩
      obtain rfl := Option.some.inj hpath
      cases hcreate : w.disk.create path with
      | error e => simp [hcreate] at h
      | ok disk =>
          simp only [hcreate, Except.ok.injEq] at h
          obtain ⟨here, hhere, rfl⟩ := Disk.cleared_of_create hcreate
          exact ⟨here, hhere, h.symm⟩

/-! ## Failures -/

/-- What a run compiles before it opens its output. -/
def Request.prepared (r : Request) (d : Disk) : Except Failure Compiled :=
  match d.read r.input with
  | .error e => .error (.unreadable e.message)
  | .ok bytes => r.compiled bytes

/-- A run fails before its output is opened, or because it cannot be opened, and then changes
    nothing; or it fails for the format, and the output has been opened. -/
theorem run_eq_error_iff : (r.run World.host).run.run w = (.error f, w') ↔
    r.prepared w.disk = .error f ∧ w' = w ∨
      (r.prepared w.disk).isOk = true ∧
        (r.opened w = .error f ∧ w' = w ∨ r.opened w = .ok w' ∧ r.chosenFormat = .error f) := by
  have hfails : ∀ {e : Failure} {w₁ : World}, ((Except.error e, w₁) : Except Failure Unit × World) =
      (.error f, w') ↔ e = f ∧ w' = w₁ := by
    intro e w₁
    rw [Prod.mk.injEq, Except.error.injEq, eq_comm (a := w₁)]
  have hsucceeds : ∀ {w₁ : World}, ¬ ((Except.ok (), w₁) : Except Failure Unit × World) =
      (.error f, w') := nofun
  simp only [Request.run, run_bind, run_lift, run_read, Request.prepared]
  cases w.disk.read r.input with
  | error e =>
      simp only [Except.mapError, run_bind, run_throw, hfails, Except.error.injEq]
      simp [Except.isOk, Except.toBool]
  | ok bytes =>
      simp only [Except.mapError, run_bind, run_mk, run_pure, run_openOutput]
      cases r.compiled bytes with
      | error e => simp [hfails, Except.isOk, Except.toBool]
      | ok compiled =>
          cases hopened : r.opened w with
          | error e => simp [hopened, hfails, Except.isOk, Except.toBool]
          | ok w₁ =>
              simp only [hopened]
              cases r.chosenFormat with
              | error e => simp [hfails, Except.isOk, Except.toBool, eq_comm, and_comm]
              | ok format =>
                  simp only [run_lift]
                  cases r.quiet
                  · simp only [Bool.not_false, if_true, run_lift]
                    simp [hsucceeds]
                  · simp only [Bool.not_true, Bool.false_eq_true, if_false, run_pure]
                    simp [hsucceeds]

/-- Whether a failure is that of an unknown format. -/
def Failure.IsFormat (f : Failure) : Prop := ∃ name, f = .unknownFormat name

theorem not_isFormat_of_load {bytes : List UInt8} (h : load bytes = .error f) : ¬ f.IsFormat := by
  rintro ⟨name, rfl⟩
  unfold load at h
  split at h
  · simp at h
  · rename_i cs _
    cases hdoc : NTriples.readDocument (String.ofList cs) <;> simp [hdoc, Except.mapError] at h

theorem not_isFormat_of_prepared {d : Disk} (h : r.prepared d = .error f) : ¬ f.IsFormat := by
  rintro ⟨name, rfl⟩
  unfold Request.prepared Request.compiled Request.options at h
  split at h
  · simp at h
  · rename_i bytes _
    cases hload : load bytes with
    | error e =>
        simp only [hload, bind, Except.bind, Except.error.injEq] at h
        exact not_isFormat_of_load hload ⟨name, h⟩
    | ok statements =>
        simp only [hload, bind, Except.bind] at h
        cases hcontext : Context.parse r.context with
        | error e => simp [hcontext, Except.map, Except.mapError] at h
        | ok context =>
            simp only [hcontext, Except.map, Except.mapError] at h
            split at h <;> simp at h

theorem not_isFormat_of_opened (h : r.opened w = .error f) : ¬ f.IsFormat := by
  rintro ⟨name, rfl⟩
  unfold Request.opened at h
  split at h
  · simp at h
  · split at h <;> simp at h

theorem isFormat_of_chosenFormat (h : r.chosenFormat = .error f) : f.IsFormat := by
  unfold Request.chosenFormat at h
  split at h
  · simp at h
  · exact ⟨_, (Except.error.inj h).symm⟩

/-- A run that fails for anything but its format leaves the world as it was. -/
theorem eq_of_run_fails (h : (r.run World.host).run.run w = (.error f, w'))
    (hformat : ¬ f.IsFormat) : w' = w := by
  rcases run_eq_error_iff.1 h with ⟨_, hw⟩ | ⟨_, ⟨_, hw⟩ | ⟨_, hf⟩⟩
  · exact hw
  · exact hw
  · exact absurd (isFormat_of_chosenFormat hf) hformat

/-- A run that fails for its format has opened its output. -/
theorem opened_of_run_fails (h : (r.run World.host).run.run w = (.error f, w'))
    (hformat : f.IsFormat) : r.opened w = .ok w' := by
  rcases run_eq_error_iff.1 h with ⟨hf, _⟩ | ⟨_, ⟨hf, _⟩ | ⟨hw, _⟩⟩
  · exact absurd hformat (not_isFormat_of_prepared hf)
  · exact absurd hformat (not_isFormat_of_opened hf)
  · exact hw

/-! ## The command -/

theorem run_invoke {args : List String} (hargs : Request.ofArgs args = .ok r) :
    (invoke World.host args).run w =
      match (r.run World.host).run.run w with
      | (.ok (), w₁) => (0, w₁)
      | (.error f, w₁) => (1, { w₁ with err := w₁.err ++ ("Error: " ++ f.message ++ "\n") }) := by
  unfold invoke
  simp only [hargs, StateT.run_bind]
  obtain ⟨y, w₁⟩ : Except Failure Unit × World := (r.run World.host).run.run w
  cases y <;> rfl

theorem run_invoke_eq_one {args : List String} (hargs : Request.ofArgs args = .ok r)
    (hexit : (invoke World.host args).run w = (1, w')) :
    ∃ f w₁, (r.run World.host).run.run w = (.error f, w₁) ∧
      w' = { w₁ with err := w₁.err ++ ("Error: " ++ f.message ++ "\n") } := by
  rw [run_invoke hargs] at hexit
  rcases hrun : (r.run World.host).run.run w with ⟨f | ⟨⟩, w₁⟩ <;> rw [hrun] at hexit
  · exact ⟨f, w₁, rfl, (Prod.mk.inj hexit).2.symm⟩
  · exact absurd (Prod.mk.inj hexit).1 (by decide)

/-- **What a failed run leaves behind.** If the command exits with an error, then it has written
    nothing to the standard output. Unless the error is that of an unknown format and an output is
    named, the disk is as it was. Otherwise the output is a file that holds nothing, if it is no
    device, whether or not there was a file before, and all else on the disk is as it was. -/
theorem disk_of_failed_run {args : List String} (hargs : Request.ofArgs args = .ok r)
    (hexit : (invoke World.host args).run w = (1, w')) :
    ∃ f, ((r.run World.host).run.run w).1 = .error f ∧ w'.out = w.out ∧
      (¬ f.IsFormat ∨ r.output = none → w'.disk = w.disk) ∧
      (f.IsFormat → ∀ path, r.output = some path →
        ∃ here, w.disk.locateFile path = .ok here ∧ w'.disk = w.disk.cleared here) := by
  obtain ⟨f, w₁, hrun, rfl⟩ := run_invoke_eq_one hargs hexit
  refine ⟨f, congrArg Prod.fst hrun, ?_⟩
  by_cases hformat : f.IsFormat
  · obtain ⟨hnone, hsome⟩ := cleared_of_opened (opened_of_run_fails hrun hformat)
    cases hout : r.output with
    | none =>
        obtain rfl := hnone hout
        exact ⟨rfl, fun _ => rfl, nofun⟩
    | some path =>
        obtain ⟨here, hhere, rfl⟩ := hsome path hout
        refine ⟨rfl, ?_, fun _ path' hpath => ?_⟩
        · rintro (h | h)
          · exact absurd hformat h
          · exact absurd h (by simp)
        · exact Option.some.inj hpath ▸ ⟨here, hhere, rfl⟩
  · obtain rfl := eq_of_run_fails hrun hformat
    exact ⟨rfl, fun _ => rfl, fun h => absurd h hformat⟩

/-- A disk with an empty ontology, and with the output of an earlier run. -/
def usedDisk : Disk where
  entries
    | [] => some .directory
    | ["in.nt"] => some (.file [])
    | ["old.ts"] => some (.file [0x2f, 0x2f])
    | _ => none
  workingDirectory := []

/-- Arguments that name an output, and a format that there is not. -/
def xmlArgs (output : String) : List String := ["in.nt", "-o", output, "-f", "xml"]

theorem disk_xmlArgs :
    ∃ w', (invoke World.host (xmlArgs "old.ts")).run { disk := usedDisk } = (1, w') ∧
      w'.out = "" ∧ w'.disk = usedDisk.cleared ["old.ts"] := by
  have hargs : Request.ofArgs (xmlArgs "old.ts") =
      .ok { input := "in.nt", output := some "old.ts", format := "xml" } := by
    decide +kernel
  have hcode : ((invoke World.host (xmlArgs "old.ts")).run { disk := usedDisk }).1 = 1 := by
    decide +kernel
  have hrun : ((Request.run { input := "in.nt", output := some "old.ts", format := "xml" }
      World.host).run.run { disk := usedDisk }).1 = .error (.unknownFormat "xml") := by
    decide +kernel
  have hlocate : usedDisk.locateFile "old.ts" = .ok ["old.ts"] := by
    decide +kernel
  obtain ⟨f, hf, hout, -, hdisk⟩ := disk_of_failed_run hargs (Prod.ext hcode rfl)
  obtain rfl := Except.error.inj (hf.symm.trans hrun)
  obtain ⟨here, hhere, hcleared⟩ := hdisk ⟨_, rfl⟩ _ rfl
  obtain rfl := Except.ok.inj (hhere.symm.trans hlocate)
  exact ⟨_, Prod.ext hcode rfl, hout, hcleared⟩

/-- The output of an earlier run is lost to a run that fails, and a run that fails leaves a file
    where there was none. -/
theorem entries_xmlArgs :
    ((invoke World.host (xmlArgs "old.ts")).run { disk := usedDisk }).1 = 1 ∧
    usedDisk.entries ["old.ts"] = some (.file [0x2f, 0x2f]) ∧
    ((invoke World.host (xmlArgs "old.ts")).run { disk := usedDisk }).2.disk.entries ["old.ts"] =
      some (.file []) ∧
    ((invoke World.host (xmlArgs "new.ts")).run { disk := usedDisk }).1 = 1 ∧
    usedDisk.entries ["new.ts"] = none ∧
    ((invoke World.host (xmlArgs "new.ts")).run { disk := usedDisk }).2.disk.entries ["new.ts"] =
      some (.file []) := by
  decide +kernel

end Ontotype.Command
