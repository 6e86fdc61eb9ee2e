import HostCall.Log.Logbook
import HostCall.Proofs.Result

/-!
# New loggers

The text of a level is read three times when a logger is made: for its channel, for its console sink
and for its file sink.  The first and the last take any other text for a warning, and stumble over
two words that name no level; the second takes names of levels alone.  `create_apply` says what
the making of a logger comes to, stage by stage: the level, the console, the file.

Main statement, `create_iff`: which texts make a logger, and that it and its sinks then have the
level that the text names in any case, or else that of a warning.
-/

namespace HostCall

open Result

/-! ## Levels from texts -/

namespace Level

/-- The text names a level in some case. -/
def IsNamed (t : Text) : Prop := (ofSpelling? t.upper).isSome

instance (t : Text) : Decidable (IsNamed t) := inferInstanceAs (Decidable (_ = true))

/-- The level that a text names in some case, or else that of a warning. -/
def named (t : Text) : Level := (ofSpelling? t.upper).getD warning

/-- Words that stand for something else where a level is looked up. -/
def misread : List Text := ["BASIC_FORMAT", "_STYLES"]

/-- The text is one of these words in some case. -/
def IsMisread (t : Text) : Prop := t.upper ∈ misread

instance (t : Text) : Decidable (IsMisread t) := inferInstanceAs (Decidable (_ ∈ misread))

theorem ofSpelling?_misread {w : Text} (hw : w ∈ misread) : ofSpelling? w = none := by
  simp only [misread, List.mem_cons, List.not_mem_nil, or_false] at hw
  rcases hw with rfl | rfl <;> rfl

theorem ofSetting_eq_ok_iff {t : Text} {l : Level} :
    ofSetting t = .ok l ↔ ¬ IsMisread t ∧ l = named t := by
  rw [ofSetting, named, IsMisread]
  cases hname : ofSpelling? t.upper with
  | some l' =>
    have hread : t.upper ∉ misread := by
      intro hw
      rw [ofSpelling?_misread hw] at hname
      cases hname
    simp [hread, eq_comm]
  | none =>
    simp only [misread, List.mem_cons, List.not_mem_nil, or_false, not_or, Option.getD_none]
    by_cases hlayout : t.upper = "BASIC_FORMAT"
    · simp [hlayout]
    · rw [if_neg hlayout]
      by_cases htable : t.upper = "_STYLES"
      · simp [htable]
      · simp [hlayout, htable, eq_comm]

theorem ofWord_eq_ok_iff {t : Text} {l : Level} :
    ofWord t = .ok l ↔ IsNamed t ∧ l = named t := by
  rw [ofWord, IsNamed, named]
  cases ofSpelling? t.upper <;> simp [eq_comm]

end Level

/-- The level of a sink. -/
def Sink.level : Sink → Level
  | .console l => l
  | .file s => s.level

/-! ## Files -/

namespace Disk

/-- Makes the folders on the way to a file and opens it.  What has been made before a failure
stays. -/
def opened (d : Disk) (p : Path) : Except HostError Nat × Disk :=
  match p.parent.check with
  | .error e => (.error e, d)
  | .ok () =>
    match d.ensureFolders p.parent with
    | (.error e, d) => (.error e, d)
    | (.ok (), d) =>
      match d.openFile p with
      | .error e => (.error e, d)
      | .ok (stream, d) => (.ok stream, d)

/-- Lines can be put into the file at a path. -/
def Writable (d : Disk) (path : Text) : Prop := ∃ stream, (d.opened (.ofText path)).1 = .ok stream

end Disk

namespace Logbook

section

variable {α β : Type}

theorem bind_apply (m : LogM α) (f : α → LogM β) (b : Logbook) :
    (m >>= f) b = match m b with
      | (.ok a, b') => f a b'
      | (.error e, b') => (.error e, b') := by
  show (ExceptT.bindCont f) (m b).1 (m b).2 = _
  obtain ⟨r, b'⟩ := m b
  cases r <;> rfl

theorem get_bind (f : Logbook → LogM α) (b : Logbook) : (get >>= f) b = f b b := rfl

theorem modify_bind (g : Logbook → Logbook) (f : Unit → LogM α) (b : Logbook) :
    (modify g >>= f) b = f () (g b) := rfl

theorem ofExcept_bind (r : Except HostError α) (f : α → LogM β) (b : Logbook) :
    ((liftM r : LogM α) >>= f) b = match r with
      | .ok a => f a b
      | .error e => (.error e, b) := by
  cases r <;> rfl

end

theorem openFile_apply (path : Text) (level : Level) (o : LoggerOptions) (b : Logbook) :
    openFile path level o b =
      ((b.disk.opened (.ofText path)).1.map fun stream =>
          ⟨(Path.ofText path).place, stream, level, o.json, o.maxBytes, o.backups⟩,
        { b with disk := (b.disk.opened (.ofText path)).2 }) := by
  unfold openFile Disk.opened
  simp only [ofExcept_bind, get_bind, modify_bind]
  cases (Path.ofText path).parent.check with
  | error e => rfl
  | ok u =>
    dsimp only
    obtain ⟨made, d⟩ := b.disk.ensureFolders (Path.ofText path).parent
    cases made with
    | error e => rfl
    | ok u =>
      dsimp only
      cases d.openFile (Path.ofText path) <;> rfl

/-! ## Channels -/

theorem lookup_filter_ne {component other : Text} (h : other ≠ component)
    (cs : List (Text × Channel)) :
    (cs.filter fun e => e.1 ≠ component).lookup other = cs.lookup other := by
  induction cs with
  | nil => rfl
  | cons e cs ih =>
    obtain ⟨k, c⟩ := e
    by_cases hk : k = component
    · have hother : (other == k) = false := beq_eq_false_iff_ne.2 (hk ▸ h)
      rw [List.filter_cons_of_neg (by simpa using hk), ih, List.lookup_cons, hother]
    · rw [List.filter_cons_of_pos (by simpa using hk), List.lookup_cons, List.lookup_cons, ih]

theorem channel_setChannel (b : Logbook) (component : Text) (c : Channel) (other : Text) :
    (b.setChannel component c).channel other =
      if other = component then c else b.channel other := by
  by_cases h : other = component
  · simp [channel, setChannel, h]
  · have hother : (other == component) = false := beq_eq_false_iff_ne.2 h
    rw [if_neg h, channel, setChannel, List.lookup_cons, hother]
    exact congrArg (·.getD {}) (lookup_filter_ne h b.channels)

theorem setChannel_setChannel (b : Logbook) (component : Text) (c c' : Channel) :
    (b.setChannel component c).setChannel component c' = b.setChannel component c' := by
  simp [setChannel, List.filter_filter]

/-! ## Stages -/

/-- The console sink that settings ask for, at the level that its word names. -/
def consoleSinks (s : LoggerSettings) : Except HostError (List Sink) :=
  if s.console then (Level.ofWord s.level).map fun l => [.console l] else .ok []

/-- The file sink that options ask for, which opens its file. -/
def fileSinks (level : Level) (o : LoggerOptions) (d : Disk) :
    Except HostError (List Sink) × Disk :=
  match o.file with
  | none => (.ok [], d)
  | some path =>
    ((d.opened (.ofText path)).1.map fun stream =>
        [.file ⟨(Path.ofText path).place, stream, level, o.json, o.maxBytes, o.backups⟩],
      (d.opened (.ofText path)).2)

/-- A sink goes behind those that a channel has just been given. -/
theorem addSink_bind {α : Type} (component : Text) (s : Sink) (f : Unit → LogM α) (b : Logbook)
    (c : Channel) :
    (addSink component s >>= f) (b.setChannel component c) =
      f () (b.setChannel component { c with sinks := c.sinks ++ [s] }) := by
  show f () ((b.setChannel component c).setChannel component _) = _
  rw [setChannel_setChannel, channel_setChannel, if_pos rfl]

/-- The last stage: the file, and the logger itself. -/
theorem attachFile_apply (component : Text) (level : Level) (o : LoggerOptions) (b : Logbook)
    (consoles : List Sink) :
    (do
      match o.file with
      | none => pure ()
      | some path => addSink component (.file (← openFile path level o))
      addLogger ⟨component, []⟩ : LogM Nat) (b.setChannel component ⟨level, false, consoles⟩) =
      match fileSinks level o b.disk with
      | (.error e, d) =>
        (.error e, { b.setChannel component ⟨level, false, consoles⟩ with disk := d })
      | (.ok files, d) =>
        (.ok b.loggers.length,
          { b.setChannel component ⟨level, false, consoles ++ files⟩ with
            disk := d, loggers := b.loggers ++ [⟨component, []⟩] }) := by
  rw [fileSinks]
  cases o.file with
  | none =>
    dsimp only
    rw [List.append_nil]
    rfl
  | some path =>
    dsimp only
    rw [bind_apply, openFile_apply]
    have hdisk : (b.setChannel component ⟨level, false, consoles⟩).disk = b.disk := rfl
    rw [hdisk]
    obtain ⟨made, d⟩ := b.disk.opened (.ofText path)
    cases made with
    | error e => rfl
    | ok stream => exact addSink_bind component _ _ { b with disk := d } ⟨level, false, consoles⟩

/-- The making of a logger: its level is read, the sinks of its channel are taken away, and the
console and the file are put in their place. -/
theorem create_apply (component : Text) (o : LoggerOptions) (b : Logbook) :
    create component o b =
      match Level.ofSetting o.level with
      | .error e => (.error e, b.setChannel component (b.channel component))
      | .ok level =>
        match consoleSinks o.toLoggerSettings with
        | .error e => (.error e, b.setChannel component ⟨level, false, []⟩)
        | .ok consoles =>
          match fileSinks level o b.disk with
          | (.error e, d) =>
            (.error e, { b.setChannel component ⟨level, false, consoles⟩ with disk := d })
          | (.ok files, d) =>
            (.ok b.loggers.length,
              { b.setChannel component ⟨level, false, consoles ++ files⟩ with
                disk := d, loggers := b.loggers ++ [⟨component, []⟩] }) := by
  unfold create
  simp only [ofExcept_bind, modify_bind]
  cases Level.ofSetting o.level with
  | error e => rfl
  | ok level =>
    dsimp only
    rw [setChannel_setChannel, consoleSinks]
    cases o.console with
    | false => exact attachFile_apply component level o b []
    | true =>
      rw [if_pos rfl, if_pos rfl, ofExcept_bind]
      cases Level.ofWord o.level with
      | error e => rfl
      | ok l =>
        exact (addSink_bind component _ _ b _).trans
          (attachFile_apply component level o b [.console l])

/-! ## Which loggers are made -/

/-- The console sink that settings ask for. -/
def consoles (s : LoggerSettings) : List Sink :=
  if s.console then [.console (.named s.level)] else []

theorem consoleSinks_eq_ok_iff {s : LoggerSettings} {cs : List Sink} :
    consoleSinks s = .ok cs ↔ (s.console = true → Level.IsNamed s.level) ∧ cs = consoles s := by
  rw [consoleSinks, consoles]
  cases s.console with
  | false => simp [eq_comm]
  | true =>
    simp only [if_true, forall_const, map_eq_ok_iff, Level.ofWord_eq_ok_iff]
    constructor
    · rintro ⟨l, ⟨hnamed, rfl⟩, rfl⟩
      exact ⟨hnamed, rfl⟩
    · rintro ⟨hnamed, rfl⟩
      exact ⟨_, ⟨hnamed, rfl⟩, rfl⟩

theorem exists_fileSinks_iff {level : Level} {o : LoggerOptions} {d : Disk} :
    (∃ fs, (fileSinks level o d).1 = .ok fs) ↔ ∀ path, o.file = some path → d.Writable path := by
  rw [fileSinks]
  cases o.file with
  | none => simp
  | some path =>
    simp only [map_eq_ok_iff, Option.some.injEq, forall_eq', Disk.Writable]
    constructor
    · rintro ⟨_, stream, hstream, -⟩
      exact ⟨stream, hstream⟩
    · rintro ⟨stream, hstream⟩
      exact ⟨_, stream, hstream, rfl⟩

/-- A file sink that has been made stands at the place of its path. -/
theorem fileSinks_eq_ok {level : Level} {o : LoggerOptions} {d d' : Disk} {fs : List Sink}
    (h : fileSinks level o d = (.ok fs, d')) :
    (o.file = none ∧ fs = [] ∧ d' = d) ∨
      ∃ path stream, o.file = some path ∧ d.opened (.ofText path) = (.ok stream, d') ∧
        fs = [.file ⟨(Path.ofText path).place, stream, level, o.json, o.maxBytes, o.backups⟩] := by
  rw [fileSinks] at h
  cases hfile : o.file with
  | none =>
    rw [hfile] at h
    cases h
    exact .inl ⟨rfl, rfl, rfl⟩
  | some path =>
    rw [hfile] at h
    obtain ⟨hmade, rfl⟩ := Prod.mk.inj h
    obtain ⟨stream, hstream, rfl⟩ := map_eq_ok_iff.1 hmade
    exact .inr ⟨path, stream, rfl, Prod.ext hstream rfl, rfl⟩

/-- What a logger that has been made leaves in its channel. -/
theorem create_eq_ok {component : Text} {o : LoggerOptions} {b b' : Logbook} {n : Nat}
    (h : create component o b = (.ok n, b')) :
    ¬ Level.IsMisread o.level ∧ (o.console = true → Level.IsNamed o.level) ∧
      ∃ files d, fileSinks (.named o.level) o b.disk = (.ok files, d) ∧ n = b.loggers.length ∧
        b' = { b.setChannel component
            ⟨.named o.level, false, consoles o.toLoggerSettings ++ files⟩ with
          disk := d, loggers := b.loggers ++ [⟨component, []⟩] } := by
  rw [create_apply] at h
  cases hlevel : Level.ofSetting o.level with
  | error e =>
    rw [hlevel] at h
    cases h
  | ok level =>
    obtain ⟨hread, rfl⟩ := Level.ofSetting_eq_ok_iff.1 hlevel
    cases hconsoles : consoleSinks o.toLoggerSettings with
    | error e =>
      rw [hlevel, hconsoles] at h
      cases h
    | ok cs =>
      obtain ⟨hnamed, rfl⟩ := consoleSinks_eq_ok_iff.1 hconsoles
      rw [hlevel, hconsoles] at h
      dsimp only at h
      rcases hfiles : fileSinks (.named o.level) o b.disk with ⟨made, d⟩
      rw [hfiles] at h
      cases made with
      | error e => cases h
      | ok files =>
        cases h
        exact ⟨hread, hnamed, files, d, rfl, rfl, rfl⟩

theorem exists_create_iff {component : Text} {o : LoggerOptions} {b : Logbook} :
    (∃ n, (create component o b).1 = .ok n) ↔
      ¬ Level.IsMisread o.level ∧ (o.console = true → Level.IsNamed o.level) ∧
        ∀ path, o.file = some path → b.disk.Writable path := by
  constructor
  · rintro ⟨n, hn⟩
    obtain ⟨hread, hnamed, files, d, hfiles, -⟩ := create_eq_ok (Prod.ext hn rfl)
    exact ⟨hread, hnamed, exists_fileSinks_iff.1 ⟨files, congrArg Prod.fst hfiles⟩⟩
  · rintro ⟨hread, hnamed, hfile⟩
    have hlevel := Level.ofSetting_eq_ok_iff.2 ⟨hread, rfl⟩
    have hconsoles := consoleSinks_eq_ok_iff.2 ⟨hnamed, rfl⟩
    obtain ⟨files, hfiles⟩ : ∃ fs, (fileSinks (.named o.level) o b.disk).1 = .ok fs :=
      exists_fileSinks_iff.2 hfile
    rw [create_apply, hlevel, hconsoles]
    dsimp only
    rw [← Prod.eta (fileSinks (.named o.level) o b.disk), hfiles]
    exact ⟨_, rfl⟩

/-- **Which texts of levels make a logger.**  Where its file can be written, a logger is made
exactly when the text is not one of the two words that stand for something else, and names a level
where a console is asked for.  The logger and each of its sinks then have the level that is named,
or that of a warning. -/
theorem create_iff (component : Text) (o : LoggerOptions) (b : Logbook) :
    ((∃ n, (create component o b).1 = .ok n) ↔
      ¬ Level.IsMisread o.level ∧ (o.console = true → Level.IsNamed o.level) ∧
        ∀ path, o.file = some path → b.disk.Writable path) ∧
    ∀ n b', create component o b = (.ok n, b') →
      (b'.channel component).level = .named o.level ∧
      (∀ s ∈ (b'.channel component).sinks, s.level = .named o.level) ∧
      ((∃ l, .console l ∈ (b'.channel component).sinks) ↔ o.console = true) ∧
      ((∃ f, .file f ∈ (b'.channel component).sinks) ↔ ∃ path, o.file = some path) := by
  refine ⟨exists_create_iff, fun n b' h => ?_⟩
  obtain ⟨-, -, files, d, hfiles, -, rfl⟩ := create_eq_ok h
  have hchannel : Logbook.channel { b.setChannel component
      ⟨.named o.level, false, consoles o.toLoggerSettings ++ files⟩ with
        disk := d, loggers := b.loggers ++ [⟨component, []⟩] } component =
      ⟨.named o.level, false, consoles o.toLoggerSettings ++ files⟩ :=
    (channel_setChannel b component _ component).trans (if_pos rfl)
  rw [hchannel]
  rcases fileSinks_eq_ok hfiles with ⟨hfile, rfl, -⟩ | ⟨path, stream, hfile, -, rfl⟩
  · rw [hfile, consoles]
    cases o.console <;> simp [Sink.level]
  · rw [hfile, consoles]
    cases o.console <;> simp [Sink.level]

/-- A word that names no level makes a logger without a console, at the level of a warning, and none
with one; a word in mixed case names its level.  The words that are misread make none. -/
theorem create_unnamed :
    let quiet (level : Text) : LoggerOptions := { level, console := false }
    let loud (level : Text) : LoggerOptions := { level }
    ((create "x" (quiet "nope") {}).1 = .ok 0 ∧
        ((create "x" (quiet "nope") {}).2.channel "x").level = .warning) ∧
      (create "x" (loud "nope") {}).1 = .error (.unknownLevel "NOPE") ∧
      (create "x" (loud "Info") {}).1 = .ok 0 ∧
      (create "x" (quiet "_styles") {}).1 = .error (.notALevel Level.layoutTable) := by
  refine ⟨⟨rfl, rfl⟩, rfl, rfl, rfl⟩

end Logbook

end HostCall
