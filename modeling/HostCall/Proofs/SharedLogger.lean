import HostCall.Proofs.NewLogger

/-!
# Shared loggers

A component is given the logger it was given before for as long as the settings stay the same, and
a new one when they change.  Making a new one starts with taking the sinks of the channel away, and
may fail after that.  What is kept for the component is changed at the end alone, so a failed change
of settings leaves a logger that is kept for the old settings, and a channel without their sinks.

The calls that have been answered are a history, newest first.  `served_coherent` says what the
logbook is after them: what is kept for a component is what it was last given, and its channel is
as those settings describe, unless a change of settings has failed since.

Main statement, `obtainShared_describes`: when the logger given is the one given before, and when
its channel is as the settings describe.
-/

namespace HostCall

open Result

/-! ## Files that stay -/

namespace Disk

/-- Each file still stands where it stood. -/
def Keeps (d d' : Disk) : Prop := ∀ p n, d.files.lookup p = some n → d'.files.lookup p = some n

theorem Keeps.refl (d : Disk) : d.Keeps d := fun _ _ h => h

theorem Keeps.trans {d d' d'' : Disk} (h : d.Keeps d') (h' : d'.Keeps d'') : d.Keeps d'' :=
  fun p n hp => h' p n (h p n hp)

theorem keeps_of_files {d d' : Disk} (h : d'.files = d.files) : d.Keeps d' :=
  fun _ _ hp => h ▸ hp

theorem makeFolder_files {d d' : Disk} {p : Path} (h : d.makeFolder p = .ok d') :
    d'.files = d.files := by
  unfold makeFolder at h
  split at h
  · cases h
  · split at h
    · cases h
      rfl
    · cases h
  · cases h

theorem ensureFolder_files {d d' : Disk} {p : Path} (h : d.ensureFolder p = .ok d') :
    d'.files = d.files := by
  unfold ensureFolder at h
  cases hmade : d.makeFolder p with
  | ok made =>
    rw [hmade] at h
    cases h
    exact makeFolder_files hmade
  | error f =>
    rw [hmade] at h
    dsimp only at h
    split at h
    · cases h
      rfl
    · cases h

theorem ensureFolders_files (d : Disk) (p : Path) : (d.ensureFolders p).2.files = d.files := by
  fun_induction ensureFolders d p with
  | case1 => rfl
  | case2 p _ _ _ d' hparent ih =>
    rw [hparent] at ih
    cases hmade : d'.ensureFolder p with
    | ok made => exact (ensureFolder_files hmade).trans ih
    | error f => exact ih
  | case3 _ _ _ _ ih => exact ih
  | case4 p =>
    cases hmade : d.ensureFolder p with
    | ok made => exact ensureFolder_files hmade
    | error f => rfl

/-- Where a walk finds a file, one stands at the end of the way. -/
theorem lookup_of_walk {d : Disk} {n : Nat} {names : List Text} {p : Place}
    (h : d.walk p names = .ok (.file n)) : d.files.lookup (names.foldl Place.step p) = some n := by
  induction names generalizing p with
  | nil =>
    rw [walk, entryAt?] at h
    cases hfile : d.files.lookup p with
    | some m =>
      rw [hfile] at h
      cases h
      exact hfile
    | none =>
      rw [hfile] at h
      dsimp only at h
      split at h <;> cases h
  | cons name rest ih =>
    rw [walk] at h
    split at h
    · cases h
    · cases h
    · split at h
      · cases h
      · exact ih h

theorem lookup_of_find {d : Disk} {n : Nat} {p : Path} (h : d.find p = .ok (.file n)) :
    d.files.lookup p.place = some n := by
  unfold find at h
  split at h
  · cases h
  · exact lookup_of_walk h

theorem lookup_obtain (d : Disk) (p : Place) :
    (d.obtain p).2.files.lookup p = some (d.obtain p).1 := by
  unfold obtain
  cases hfile : d.files.lookup p with
  | some n => exact hfile
  | none => exact List.lookup_cons_self

theorem keeps_obtain (d : Disk) (p : Place) : d.Keeps (d.obtain p).2 := by
  intro q n hq
  unfold obtain
  cases hfile : d.files.lookup p with
  | some m => exact hq
  | none =>
    have hne : (q == p) = false := by
      refine beq_eq_false_iff_ne.2 fun heq => ?_
      rw [heq, hfile] at hq
      cases hq
    show List.lookup q ((p, d.contents.length) :: d.files) = some n
    rw [List.lookup_cons, hne]
    exact hq

/-- A file that has been opened stands at the place of its path, and no other has gone. -/
theorem openFile_ok {d d' : Disk} {p : Path} {stream : Nat}
    (h : d.openFile p = .ok (stream, d')) :
    d'.files.lookup p.place = some stream ∧ d.Keeps d' := by
  unfold openFile at h
  obtain ⟨-, -, h⟩ := bind_eq_ok_iff.1 h
  dsimp only at h
  split at h
  · cases h
  cases hfind : d.find p with
  | ok found =>
    rw [hfind] at h
    cases found with
    | file n =>
      cases h
      exact ⟨lookup_of_find hfind, .refl d⟩
    | folder => cases h
  | error f =>
    rw [hfind] at h
    cases f with
    | absent =>
      have hmade : d.obtain p.place = (stream, d') := Except.ok.inj h
      have hlookup := lookup_obtain d p.place
      have hkeeps := keeps_obtain d p.place
      rw [hmade] at hlookup hkeeps
      exact ⟨hlookup, hkeeps⟩
    | _ => cases h

theorem keeps_opened (d : Disk) (p : Path) : d.Keeps (d.opened p).2 := by
  rw [opened]
  cases p.parent.check with
  | error e => exact .refl d
  | ok u =>
    dsimp only
    have hfolders := keeps_of_files (ensureFolders_files d p.parent)
    rcases hmade : d.ensureFolders p.parent with ⟨made, d'⟩
    rw [hmade] at hfolders
    cases made with
    | error e => exact hfolders
    | ok u =>
      dsimp only
      cases hopen : d'.openFile p with
      | error e => exact hfolders
      | ok r => exact hfolders.trans (openFile_ok hopen).2

theorem lookup_opened {d d' : Disk} {p : Path} {stream : Nat}
    (h : d.opened p = (.ok stream, d')) : d'.files.lookup p.place = some stream := by
  rw [opened] at h
  split at h
  · cases h
  · split at h
    · cases h
    · split at h
      · cases h
      · next hopen =>
        cases h
        exact (openFile_ok hopen).1

end Disk

namespace Logbook

/-! ## What a call comes to -/

/-- The level that options name, and exactly the sinks that they ask for; a file sink writes to the
file that stands at the place of its path. -/
def Describes (d : Disk) (o : LoggerOptions) (c : Channel) : Prop :=
  match o.file with
  | none => c = ⟨.named o.level, false, consoles o.toLoggerSettings⟩
  | some path => ∃ stream, d.files.lookup (Path.ofText path).place = some stream ∧
      c = ⟨.named o.level, false, consoles o.toLoggerSettings ++
        [.file ⟨(Path.ofText path).place, stream, .named o.level, o.json, o.maxBytes, o.backups⟩]⟩

/-- What is left of a channel when no logger could be made after its level had been read. -/
def leftBy (s : LoggerSettings) : Channel :=
  ⟨.named s.level, false, if Level.IsNamed s.level then consoles s else []⟩

theorem Describes.keeps {d d' : Disk} {o : LoggerOptions} {c : Channel} (hkeeps : d.Keeps d')
    (h : Describes d o c) : Describes d' o c := by
  rw [Describes] at h ⊢
  cases hfile : o.file with
  | none =>
    rw [hfile] at h
    exact h
  | some path =>
    rw [hfile] at h
    obtain ⟨stream, hstream, hc⟩ := h
    exact ⟨stream, hkeeps _ _ hstream, hc⟩

theorem keeps_fileSinks (level : Level) (o : LoggerOptions) (d : Disk) :
    d.Keeps (fileSinks level o d).2 := by
  rw [fileSinks]
  cases o.file with
  | none => exact .refl d
  | some path => exact d.keeps_opened (.ofText path)

theorem describes_of_fileSinks {o : LoggerOptions} {d d' : Disk} {files : List Sink}
    (h : fileSinks (.named o.level) o d = (.ok files, d')) :
    Describes d' o ⟨.named o.level, false, consoles o.toLoggerSettings ++ files⟩ := by
  rw [Describes]
  rcases fileSinks_eq_ok h with ⟨hfile, rfl, -⟩ | ⟨path, stream, hfile, hopened, rfl⟩
  · rw [hfile, List.append_nil]
  · rw [hfile]
    exact ⟨stream, Disk.lookup_opened hopened, rfl⟩

/-- What the making of a logger can come to. -/
inductive Making (component : Text) (o : LoggerOptions) (b : Logbook) :
    Except HostError Nat → Logbook → Prop
  | unread {e : HostError} : Level.IsMisread o.level →
      Making component o b (.error e) (b.setChannel component (b.channel component))
  | failed {e : HostError} {d : Disk} : ¬ Level.IsMisread o.level → b.disk.Keeps d →
      Making component o b (.error e)
        { b.setChannel component (leftBy o.toLoggerSettings) with disk := d }
  | made {c : Channel} {d : Disk} : ¬ Level.IsMisread o.level → b.disk.Keeps d →
      Describes d o c →
      Making component o b (.ok b.loggers.length)
        { b.setChannel component c with disk := d, loggers := b.loggers ++ [⟨component, []⟩] }

theorem making_create (component : Text) (o : LoggerOptions) (b : Logbook) :
    Making component o b (create component o b).1 (create component o b).2 := by
  rw [create_apply]
  cases hlevel : Level.ofSetting o.level with
  | error e =>
    by_cases hread : Level.IsMisread o.level
    · exact .unread hread
    · rw [Level.ofSetting_eq_ok_iff.2 ⟨hread, rfl⟩] at hlevel
      cases hlevel
  | ok level =>
    obtain ⟨hread, rfl⟩ := Level.ofSetting_eq_ok_iff.1 hlevel
    dsimp only
    cases hconsoles : consoleSinks o.toLoggerSettings with
    | error e =>
      have hleft : leftBy o.toLoggerSettings = ⟨.named o.level, false, []⟩ := by
        have hnamed : ¬ Level.IsNamed o.level := by
          intro hnamed
          rw [consoleSinks_eq_ok_iff.2 ⟨fun _ => hnamed, rfl⟩] at hconsoles
          cases hconsoles
        rw [leftBy, if_neg hnamed]
      rw [← hleft]
      exact .failed hread (.refl b.disk)
    | ok cs =>
      obtain ⟨hnamed, rfl⟩ := consoleSinks_eq_ok_iff.1 hconsoles
      dsimp only
      have hkeeps := keeps_fileSinks (.named o.level) o b.disk
      rcases hfiles : fileSinks (.named o.level) o b.disk with ⟨made, d⟩
      rw [hfiles] at hkeeps
      cases made with
      | error e =>
        have hleft : leftBy o.toLoggerSettings =
            ⟨.named o.level, false, consoles o.toLoggerSettings⟩ := by
          rw [leftBy]
          split
          · rfl
          · next hunnamed =>
            rw [consoles, if_neg fun hconsole => hunnamed (hnamed hconsole)]
        dsimp only
        rw [← hleft]
        exact .failed hread hkeeps
      | ok files => exact .made hread hkeeps (describes_of_fileSinks hfiles)

/-- What a call for a shared logger can come to. -/
inductive Obtaining (component : Text) (s : LoggerSettings) (b : Logbook) :
    Except HostError Nat → Logbook → Prop
  | kept {n : Nat} : b.shared.lookup component = some (s, n) →
      Obtaining component s b (.ok n) b
  | made {n : Nat} {b' : Logbook} : (∀ n', b.shared.lookup component ≠ some (s, n')) →
      Making component { s with } b (.ok n) b' →
      Obtaining component s b (.ok n) { b' with shared := (component, s, n) :: b'.shared }
  | failed {e : HostError} {b' : Logbook} : Making component { s with } b (.error e) b' →
      Obtaining component s b (.error e) b'

theorem obtainShared_of_kept {component : Text} {s : LoggerSettings} {b : Logbook} {n : Nat}
    (hkept : b.shared.lookup component = some (s, n)) :
    obtainShared component s b = (.ok n, b) := by
  unfold obtainShared
  rw [get_bind, hkept]
  dsimp only
  rw [if_pos rfl]
  rfl

/-- A shared logger that has been made is kept. -/
theorem obtainShared_of_new {component : Text} {s : LoggerSettings} {b : Logbook}
    (hnew : ∀ n, b.shared.lookup component ≠ some (s, n)) :
    obtainShared component s b =
      match create component { s with } b with
      | (.ok n, b') => (.ok n, { b' with shared := (component, s, n) :: b'.shared })
      | (.error e, b') => (.error e, b') := by
  have hmake : (do
      let n ← ofSettings component s
      modify fun b => { b with shared := (component, s, n) :: b.shared }
      return n : LogM Nat) b =
        match create component { s with } b with
        | (.ok n, b') => (.ok n, { b' with shared := (component, s, n) :: b'.shared })
        | (.error e, b') => (.error e, b') := by
    rw [bind_apply, ofSettings]
    obtain ⟨r, b'⟩ := create component { s with } b
    cases r <;> rfl
  unfold obtainShared
  rw [get_bind]
  cases hlookup : b.shared.lookup component with
  | none => exact hmake
  | some entry =>
    obtain ⟨s', n⟩ := entry
    have hs : s' ≠ s := fun hs => hnew n (hs ▸ hlookup)
    dsimp only
    rw [if_neg hs]
    exact hmake

theorem obtaining_obtainShared (component : Text) (s : LoggerSettings) (b : Logbook) :
    Obtaining component s b (obtainShared component s b).1 (obtainShared component s b).2 := by
  by_cases hkept : ∃ n, b.shared.lookup component = some (s, n)
  · obtain ⟨n, hn⟩ := hkept
    rw [obtainShared_of_kept hn]
    exact .kept hn
  · have hmaking := making_create component { s with } b
    rw [obtainShared_of_new (not_exists.1 hkept)]
    rcases hcreate : create component { s with } b with ⟨r, b'⟩
    rw [hcreate] at hmaking
    cases r with
    | ok n => exact .made (not_exists.1 hkept) hmaking
    | error e => exact .failed hmaking

/-! ## Calls one after another -/

/-- A call for a shared logger, and what it came to. -/
structure Reply where
  component : Text
  settings : LoggerSettings
  result : Except HostError Nat

/-- Calls answered one after another by loggers that start with none, the last one first. -/
inductive Served (d : Disk) : List Reply → Logbook → Prop
  | fresh : Served d [] { disk := d }
  | call {history : List Reply} {b : Logbook} (component : Text) (s : LoggerSettings) :
      Served d history b →
      Served d (⟨component, s, (obtainShared component s b).1⟩ :: history)
        (obtainShared component s b).2

/-- The settings and the number of the logger that a component was last given. -/
def lastGiven (component : Text) : List Reply → Option (LoggerSettings × Nat)
  | [] => none
  | ⟨c, s, .ok n⟩ :: earlier =>
    if c = component then some (s, n) else lastGiven component earlier
  | ⟨_, _, .error _⟩ :: earlier => lastGiven component earlier

/-- The settings of the last call that failed and has changed the channel of a component, unless a
logger has been made for it since. -/
def spoiler (component : Text) : List Reply → Option LoggerSettings
  | [] => none
  | ⟨c, s, .ok n⟩ :: earlier =>
    if c = component ∧ lastGiven component earlier ≠ some (s, n) then none
    else spoiler component earlier
  | ⟨c, s, .error _⟩ :: earlier =>
    if c = component ∧ ¬ Level.IsMisread s.level then some s else spoiler component earlier

/-- What is kept, and the channels, agree with the calls that have been answered. -/
structure Coherent (history : List Reply) (b : Logbook) : Prop where
  shared : ∀ c, b.shared.lookup c = lastGiven c history
  given : ∀ c s n, lastGiven c history = some (s, n) → n < b.loggers.length
  spoiled : ∀ c s, spoiler c history = some s → b.channel c = leftBy s
  described : ∀ c s n, lastGiven c history = some (s, n) → spoiler c history = none →
    Describes b.disk { s with } (b.channel c)

theorem Coherent.fresh (d : Disk) : Coherent [] { disk := d } where
  shared _ := rfl
  given _ _ _ h := nomatch h
  spoiled _ _ h := nomatch h
  described _ _ _ h := nomatch h

section

variable {history : List Reply} {b : Logbook} {component : Text} {s : LoggerSettings}

/-- A logger that is kept changes nothing. -/
theorem Coherent.kept {n : Nat} (hb : Coherent history b)
    (hkept : b.shared.lookup component = some (s, n)) :
    Coherent (⟨component, s, .ok n⟩ :: history) b := by
  have hlast : lastGiven component history = some (s, n) := (hb.shared component).symm.trans hkept
  have hgiven (c : Text) :
      lastGiven c (⟨component, s, .ok n⟩ :: history) = lastGiven c history := by
    rw [lastGiven]
    split
    · next hc => rw [← hc, hlast]
    · rfl
  have hspoiler (c : Text) : spoiler c (⟨component, s, .ok n⟩ :: history) = spoiler c history := by
    rw [spoiler, if_neg fun h => h.2 (h.1 ▸ hlast)]
  exact {
    shared := fun c => (hb.shared c).trans (hgiven c).symm
    given := fun c s n h => hb.given c s n ((hgiven c).symm.trans h)
    spoiled := fun c s h => hb.spoiled c s ((hspoiler c).symm.trans h)
    described := fun c s n h hs =>
      hb.described c s n ((hgiven c).symm.trans h) ((hspoiler c).symm.trans hs) }

/-- A logger that is made is kept, and its channel is as described; the others stay. -/
theorem Coherent.made {c : Channel} {d : Disk} (hb : Coherent history b)
    (hnew : ∀ n, b.shared.lookup component ≠ some (s, n)) (hkeeps : b.disk.Keeps d)
    (hc : Describes d { s with } c) :
    Coherent (⟨component, s, .ok b.loggers.length⟩ :: history)
      { b.setChannel component c with
        disk := d, loggers := b.loggers ++ [⟨component, []⟩]
        shared := (component, s, b.loggers.length) :: b.shared } := by
  have hnewest : lastGiven component history ≠ some (s, b.loggers.length) :=
    hb.shared component ▸ hnew _
  refine ⟨fun other => ?shared, fun other s' n h => ?given, fun other t h => ?spoiled,
    fun other s' n h hs => ?described⟩
  case shared =>
    rw [lastGiven, List.lookup_cons]
    by_cases hother : component = other
    · rw [if_pos hother, beq_iff_eq.2 hother.symm]
    · rw [if_neg hother, beq_eq_false_iff_ne.2 (Ne.symm hother)]
      exact hb.shared other
  case given =>
    rw [lastGiven] at h
    rw [List.length_append, List.length_singleton]
    split at h
    · cases h
      exact Nat.lt_succ_self _
    · exact Nat.lt_succ_of_lt (hb.given other s' n h)
  case spoiled =>
    show (b.setChannel component c).channel other = leftBy t
    rw [spoiler] at h
    by_cases hother : component = other
    · rw [if_pos ⟨hother, hother ▸ hnewest⟩] at h
      cases h
    · rw [if_neg fun hc => hother hc.1] at h
      rw [channel_setChannel, if_neg (Ne.symm hother)]
      exact hb.spoiled other t h
  case described =>
    show Describes d { s' with } ((b.setChannel component c).channel other)
    rw [lastGiven] at h
    rw [spoiler] at hs
    by_cases hother : component = other
    · rw [if_pos hother] at h
      cases h
      rw [channel_setChannel, if_pos hother.symm]
      exact hc
    · rw [if_neg hother] at h
      rw [if_neg fun hc => hother hc.1] at hs
      rw [channel_setChannel, if_neg (Ne.symm hother)]
      exact (hb.described other s' n h hs).keeps hkeeps

/-- A failure leaves what is kept, and every channel but that of its component. -/
theorem Coherent.failed {e : HostError} {d : Disk} (hb : Coherent history b)
    (hread : ¬ Level.IsMisread s.level) (hkeeps : b.disk.Keeps d) :
    Coherent (⟨component, s, .error e⟩ :: history)
      { b.setChannel component (leftBy s) with disk := d } := by
  refine ⟨hb.shared, hb.given, fun other t h => ?spoiled, fun other s' n h hs => ?described⟩
  case spoiled =>
    show (b.setChannel component (leftBy s)).channel other = leftBy t
    rw [spoiler] at h
    by_cases hother : component = other
    · rw [if_pos ⟨hother, hread⟩] at h
      cases h
      rw [channel_setChannel, if_pos hother.symm]
    · rw [if_neg fun hc => hother hc.1] at h
      rw [channel_setChannel, if_neg (Ne.symm hother)]
      exact hb.spoiled other t h
  case described =>
    show Describes d { s' with } ((b.setChannel component (leftBy s)).channel other)
    rw [spoiler] at hs
    by_cases hother : component = other
    · rw [if_pos ⟨hother, hread⟩] at hs
      cases hs
    · rw [if_neg fun hc => hother hc.1] at hs
      rw [channel_setChannel, if_neg (Ne.symm hother)]
      exact (hb.described other s' n h hs).keeps hkeeps

/-- A level that cannot be read leaves everything. -/
theorem Coherent.unread {e : HostError} (hb : Coherent history b)
    (hread : Level.IsMisread s.level) :
    Coherent (⟨component, s, .error e⟩ :: history)
      (b.setChannel component (b.channel component)) := by
  have hchannel (other : Text) :
      (b.setChannel component (b.channel component)).channel other = b.channel other := by
    rw [channel_setChannel]
    split
    · next hother => rw [hother]
    · rfl
  have hspoiler (c : Text) :
      spoiler c (⟨component, s, .error e⟩ :: history) = spoiler c history := by
    rw [spoiler, if_neg fun h => h.2 hread]
  exact {
    shared := hb.shared
    given := hb.given
    spoiled := fun c t h => (hchannel c).trans (hb.spoiled c t ((hspoiler c).symm.trans h))
    described := fun c s' n h hs =>
      (hchannel c).symm ▸ hb.described c s' n h ((hspoiler c).symm.trans hs) }

theorem Coherent.call {r : Except HostError Nat} {b' : Logbook} (hb : Coherent history b)
    (h : Obtaining component s b r b') : Coherent (⟨component, s, r⟩ :: history) b' := by
  cases h with
  | kept hkept => exact hb.kept hkept
  | made hnew hmaking =>
    cases hmaking with
    | made _ hkeeps hc => exact hb.made hnew hkeeps hc
  | failed hmaking =>
    cases hmaking with
    | unread hread => exact hb.unread hread
    | failed hread hkeeps => exact hb.failed hread hkeeps

end

/-- **What is kept and the channels agree with the calls that have been answered.** -/
theorem served_coherent {d : Disk} {history : List Reply} {b : Logbook}
    (h : Served d history b) : Coherent history b := by
  induction h with
  | fresh => exact .fresh d
  | call component s _ ih => exact ih.call (obtaining_obtainShared component s _)

/-! ## Which channels are as described -/

theorem describes_leftBy_iff {d : Disk} {s t : LoggerSettings} :
    Describes d { s with } (leftBy t) ↔
      s.file = none ∧ Level.named t.level = .named s.level ∧
        (s.console = true ↔ t.console = true ∧ Level.IsNamed t.level) := by
  have hsinks : (if Level.IsNamed t.level then consoles t else []) =
      if t.console = true ∧ Level.IsNamed t.level then [.console (.named t.level)] else [] := by
    rw [consoles]
    by_cases hnamed : Level.IsNamed t.level <;> simp [hnamed]
  rw [Describes, leftBy, hsinks]
  cases s.file with
  | some path =>
    simp only [reduceCtorEq, false_and, iff_false, not_exists, not_and]
    rintro stream -
    rw [consoles]
    split <;> split <;> simp
  | none =>
    simp only [Channel.mk.injEq, true_and]
    refine and_congr_right fun hlevel => ?_
    rw [hlevel, consoles]
    cases s.console <;> by_cases hleft : t.console = true ∧ Level.IsNamed t.level <;> simp [hleft]

/-- **When a shared logger is as its settings describe.**  The logger given is the one given before
exactly when the settings are the same.  Its channel then has the level and exactly the sinks that
the settings describe, unless a call with other settings has failed since the logger was made: what
that call left is as described only where it happens to be the same. -/
theorem obtainShared_describes {d : Disk} {history : List Reply} {b b' : Logbook}
    {component : Text} {s : LoggerSettings} {n : Nat} (hb : Served d history b)
    (h : obtainShared component s b = (.ok n, b')) :
    (∀ s₀ n₀, lastGiven component history = some (s₀, n₀) → (n = n₀ ↔ s = s₀)) ∧
    (Describes b'.disk { s with } (b'.channel component) ↔
      ∀ n₀ t, lastGiven component history = some (s, n₀) → spoiler component history = some t →
        s.file = none ∧ Level.named t.level = .named s.level ∧
          (s.console = true ↔ t.console = true ∧ Level.IsNamed t.level)) ∧
    ∀ n₀ t, lastGiven component history = some (s, n₀) → spoiler component history = some t →
      b'.channel component = leftBy t := by
  have hcoherent := served_coherent hb
  have hobtaining := obtaining_obtainShared component s b
  rw [h] at hobtaining
  cases hobtaining with
  | kept hkept =>
    have hlast : lastGiven component history = some (s, n) :=
      (hcoherent.shared component).symm.trans hkept
    rw [hlast]
    refine ⟨?_, ?_, fun n₀ t _ ht => hcoherent.spoiled component t ht⟩
    · rintro s₀ n₀ ⟨⟩
      simp
    · cases hspoiler : spoiler component history with
      | none =>
        simp only [reduceCtorEq, false_imp_iff, implies_true, iff_true]
        exact hcoherent.described component s n hlast hspoiler
      | some t =>
        rw [hcoherent.spoiled component t hspoiler, describes_leftBy_iff]
        simp
  | made hnew hmaking =>
    have hother (n₀ : Nat) : lastGiven component history ≠ some (s, n₀) :=
      hcoherent.shared component ▸ hnew n₀
    cases hmaking with
    | @made c d' _ _ hc =>
      refine ⟨fun s₀ n₀ hlast => ?_, ?_, fun n₀ t hlast => absurd hlast (hother n₀)⟩
      · have hn : b.loggers.length ≠ n₀ := Nat.ne_of_gt (hcoherent.given component s₀ n₀ hlast)
        have hs : s ≠ s₀ := fun hs => hother n₀ (hs ▸ hlast)
        exact iff_of_false hn hs
      · have hchannel : (b.setChannel component c).channel component = c :=
          (channel_setChannel b component c component).trans (if_pos rfl)
        refine iff_of_true ?_ fun n₀ t hlast => absurd hlast (hother n₀)
        show Describes d' { s with } ((b.setChannel component c).channel component)
        rw [hchannel]
        exact hc

theorem obtainShared_describes_again :
    let s : LoggerSettings := { level := "error" }
    ∃ b, Served {} [⟨"x", s, .ok 0⟩] b ∧ obtainShared "x" s b = (.ok 0, b) ∧
      Describes b.disk { s with } (b.channel "x") := by
  intro s
  have hserved : Served {} [⟨"x", s, .ok 0⟩] (obtainShared "x" s {}).2 := .call "x" s .fresh
  refine ⟨_, hserved, rfl, (obtainShared_describes hserved rfl).2.1.2 fun n₀ t _ ht => ?_⟩
  cases ht

theorem opened_folder : Disk.opened {} (.ofText "/") = (.error (.file .isFolder "/"), {}) := by
  rw [Disk.opened, Disk.ensureFolders]
  rfl

/-- A change of settings that fails at its file leaves a console at another level, and the logger
that is kept is given again. -/
theorem obtainShared_stale :
    let s : LoggerSettings := { level := "ERROR" }
    let t : LoggerSettings := { file := some "/" }
    ∃ b, Served {} [⟨"x", t, .error (.file .isFolder "/")⟩, ⟨"x", s, .ok 0⟩] b ∧
      obtainShared "x" s b = (.ok 0, b) ∧
      (b.channel "x").level = .warning ∧ ¬ Describes b.disk { s with } (b.channel "x") := by
  intro s t
  have hserved : Served {} [⟨"x", s, .ok 0⟩] (obtainShared "x" s {}).2 := .call "x" s .fresh
  have hfailed : obtainShared "x" t (obtainShared "x" s {}).2 =
      (.error (.file .isFolder "/"), (obtainShared "x" s {}).2.setChannel "x" (leftBy t)) := by
    have hnew (n : Nat) : (obtainShared "x" s {}).2.shared.lookup ("x" : Text) ≠ some (t, n) := by
      intro hlookup
      have hentry : some (s, 0) = some (t, n) := hlookup
      have hsettings : s = t := (Prod.mk.inj (Option.some.inj hentry)).1
      have hfile : s.file = t.file := congrArg LoggerSettings.file hsettings
      cases hfile
    have hdisk : (obtainShared "x" s {}).2.disk = {} := rfl
    have hfile : fileSinks .warning { t with } {} = (.error (.file .isFolder "/"), {}) := by
      rw [fileSinks]
      dsimp only [t]
      rw [opened_folder]
      rfl
    rw [obtainShared_of_new hnew, create_apply, hdisk]
    have hlevel : Level.ofSetting t.level = .ok .warning := rfl
    have hconsole : consoleSinks t = .ok [.console .warning] := rfl
    dsimp only
    rw [hlevel]
    dsimp only
    rw [hconsole]
    dsimp only
    rw [hfile]
    rfl
  have hstale := hserved.call "x" t
  rw [hfailed] at hstale
  refine ⟨_, hstale, rfl, rfl, fun hdescribed => ?_⟩
  have hlevel := (describes_leftBy_iff (d := {}) (s := s) (t := t)).1 hdescribed
  cases hlevel.2.1

end Logbook

end HostCall
