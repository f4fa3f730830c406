import LtiLaunch.Logging.Retention
import LtiLaunch.Proofs.Files.Tree

/-!
# What the retention time leaves

The purge removes the log files whose time is over and nothing else. The time is counted in a
machine's words, which makes a difference when it reaches back before the earliest time that a
machine knows: then files dated up to the beginning of 1970 go, however young they are.
-/

namespace LtiLaunch.Retention

variable {t : FileTree} {place : List String} {directory : String} {now clock : Instant}
  {days : Nat} {e : DirectoryEntry}

/-! ### The time -/

/-- The last second that a machine knows. -/
def latest : Int := 0x7FFFFFFFFFFFFFFF

/-- The entry was last written to at least as many days ago. -/
def IsOver (now : Instant) (days : Nat) (e : DirectoryEntry) : Prop :=
  days * 86400 * nanosecondsPerSecond ≤ now - e.modified

/-- The days reach back before the earliest second that a machine knows. -/
def ReachesBeyond (now : Instant) (days : Nat) : Prop :=
  now / nanosecondsPerSecond - days * 86400 < earliest

/-- A log file whose time is over. -/
def IsExpiredLog (now : Instant) (days : Nat) (e : DirectoryEntry) : Prop :=
  e.isFile = true ∧ logFilePrefix.toList <+: e.name.toList ∧ IsOver now days e

instance (now : Instant) (days : Nat) : Decidable (ReachesBeyond now days) :=
  inferInstanceAs (Decidable (_ < _))

instance (now : Instant) (days : Nat) (e : DirectoryEntry) : Decidable (IsOver now days e) :=
  inferInstanceAs (Decidable (_ ≤ _))

instance (now : Instant) (days : Nat) (e : DirectoryEntry) : Decidable (IsExpiredLog now days e) :=
  inferInstanceAs (Decidable (_ ∧ _ ∧ _))

theorem seconds_eq (days : Nat) : seconds days = min (days * 86400) 18446744073709551615 := rfl

theorem le_cutoff_iff_isOver (known : now / nanosecondsPerSecond ≤ latest)
    (spared : ¬ ReachesBeyond now days ∨ 0 < e.modified) :
    e.modified ≤ cutoff now days ↔ IsOver now days e := by
  rw [cutoff]
  split <;>
    simp only [seconds_eq, IsOver, ReachesBeyond, nanosecondsPerSecond, earliest, latest, Instant]
      at * <;>
    omega

theorem cutoff_of_reachesBeyond (early : now / nanosecondsPerSecond < latest)
    (beyond : ReachesBeyond now days) : cutoff now days = 0 := by
  refine if_pos ?_
  simp only [seconds_eq, ReachesBeyond, nanosecondsPerSecond, earliest, latest, Instant] at *
  omega

theorem isExpired_iff : isExpired now days e = true ↔
    e.isFile = true ∧ logFilePrefix.toList <+: e.name.toList ∧ e.modified ≤ cutoff now days := by
  simp only [isExpired, isLogName, Bool.and_eq_true, decide_eq_true_eq, List.isPrefixOf_iff_prefix,
    and_assoc, and_left_comm]

theorem isExpired_iff_isExpiredLog (known : now / nanosecondsPerSecond ≤ latest)
    (spared : ¬ ReachesBeyond now days ∨ 0 < e.modified) :
    isExpired now days e = true ↔ IsExpiredLog now days e := by
  rw [isExpired_iff, le_cutoff_iff_isOver known spared, IsExpiredLog]

/-- What is expired after more days is so after fewer. -/
theorem isExpired_of_le (known : now / nanosecondsPerSecond ≤ latest) {fewer : Nat}
    (le : fewer ≤ days) (spared : ¬ ReachesBeyond now days ∨ 0 < e.modified)
    (expired : isExpired now days e = true) : isExpired now fewer e = true := by
  have spared' : ¬ ReachesBeyond now fewer ∨ 0 < e.modified := by
    refine spared.imp_left fun within beyond => within ?_
    simp only [ReachesBeyond, Instant] at *
    omega
  rw [isExpired_iff_isExpiredLog known spared] at expired
  rw [isExpired_iff_isExpiredLog known spared']
  obtain ⟨isFile, named, due⟩ := expired
  refine ⟨isFile, named, ?_⟩
  simp only [IsOver, nanosecondsPerSecond, Instant] at *
  omega

/-! ### The removal -/

theorem run_removeAll_cons {σ : Type} (files : Files (StateM σ)) (name : String)
    (names : List String) (s : σ) :
    (removeAll files directory (name :: names)).run s =
      let removed := (files.remove (Path.join directory name)).run s
      let rest := (removeAll files directory names).run removed.2
      (if removed.1 then rest.1 else .cannotRemove (Path.join directory name) :: rest.1, rest.2) :=
  rfl

/-- Files of a directory are removed one by one, and nothing else is. -/
theorem run_removeAll (sound : t.Sound) (found : t.place? directory = some place)
    (isDir : t.isDirectory place = true) {names : List String} (nodup : names.Nodup)
    (files : ∀ name ∈ names, ∃ content modified,
      (place ++ [name], .file content, modified) ∈ t.nodes) :
    (removeAll (FileTree.files clock) directory names).run t =
      ([], t.only fun n => n.1 ∉ names.map (place ++ [·])) := by
  induction names generalizing t with
  | nil =>
    have all : t.nodes.filter (fun n => n.1 ∉ List.map (place ++ [·]) []) = t.nodes := by simp
    rw [FileTree.only, all]
    rfl
  | cons name names ih =>
    obtain ⟨absent, nodup⟩ := List.nodup_cons.mp nodup
    obtain ⟨content, modified, mem⟩ := files name List.mem_cons_self
    have keeps := FileTree.keepsDirectories_of_isFile sound mem
    have removed : ((FileTree.files clock).remove (Path.join directory name)).run t =
        (true, t.only (·.1 != place ++ [name])) :=
      congrArg Prod.swap (FileTree.remove_join sound found isDir mem)
    have others : ∀ other ∈ names, ∃ content modified,
        (place ++ [other], .file content, modified) ∈ (t.only (·.1 != place ++ [name])).nodes := by
      intro other inNames
      obtain ⟨content, modified, mem⟩ := files other (.tail _ inNames)
      refine ⟨content, modified, List.mem_filter.mpr ⟨mem, ?_⟩⟩
      have ne : other ≠ name := fun same => absent (same ▸ inNames)
      simpa using ne
    have rest := ih (FileTree.sound_only sound _) (FileTree.place?_only sound keeps found isDir)
      (FileTree.isDirectory_only sound keeps isDir) nodup others
    have both : (t.only (·.1 != place ++ [name])).only (fun n => n.1 ∉ names.map (place ++ [·])) =
        t.only fun n => n.1 ∉ (name :: names).map (place ++ [·]) := by
      rw [FileTree.only_only]
      refine FileTree.only_congr fun n _ => ?_
      rw [List.map_cons, Bool.eq_iff_iff]
      simp [and_comm]
    rw [run_removeAll_cons, removed]
    simp only [rest, both, if_true]

/-! ### The purge -/

theorem run_purge_of_listed {σ : Type} {files : Files (StateM σ)} {s : σ}
    {entries : List DirectoryEntry} (listed : (files.entries directory).run s = (some entries, s)) :
    (purge files directory days now).run s =
      (removeAll files directory (expired now days entries)).run s := by
  rw [purge, StateT.run_bind, listed]
  rfl

/-- Whether a node is an expired log file at the place. -/
def isExpiredAt (now : Instant) (days : Nat) (place : List String)
    (n : List String × FileNode × Instant) : Bool :=
  FileTree.isEntryOf place n && isExpired now days (FileTree.entryOf n)

theorem keepsDirectories_not_isExpiredAt :
    t.KeepsDirectories fun n => !isExpiredAt now days place n := by
  rintro ⟨p, node, modified⟩ - rfl
  simp [isExpiredAt, isExpired, FileTree.entryOf]

/-- The places of the expired files are those that their names lead to. -/
theorem map_expired (now : Instant) (days : Nat) (place : List String)
    (nodes : List (List String × FileNode × Instant)) :
    (expired now days ((nodes.filter (FileTree.isEntryOf place)).map FileTree.entryOf)).map
        (place ++ [·]) = ((FileTree.mk nodes).only (isExpiredAt now days place)).nodes.map Prod.fst := by
  rw [expired, FileTree.only, List.filter_map, List.filter_filter, List.map_map, List.map_map]
  have same : (fun n => (isExpired now days ∘ FileTree.entryOf) n && FileTree.isEntryOf place n) =
      isExpiredAt now days place := by
    funext n
    exact Bool.and_comm ..
  rw [same]
  refine List.map_congr_left fun n mem => ?_
  have entry : FileTree.isEntryOf place n = true := by
    have := List.of_mem_filter mem
    rw [isExpiredAt, Bool.and_eq_true] at this
    exact this.1
  exact (FileTree.isEntryOf_iff.mp entry).symm

theorem run_purge_eq (sound : t.Sound) (found : t.place? directory = some place)
    (isDir : t.isDirectory place = true) :
    (purge (FileTree.files clock) directory days now).run t =
      ([], t.only fun n => !isExpiredAt now days place n) := by
  have listed : ((FileTree.files clock).entries directory).run t =
      (some ((t.nodes.filter (FileTree.isEntryOf place)).map FileTree.entryOf), t) :=
    congrArg (·, t) (FileTree.entries_eq found isDir)
  have places := map_expired now days place t.nodes
  have nodup : (expired now days
      ((t.nodes.filter (FileTree.isEntryOf place)).map FileTree.entryOf)).Nodup := by
    refine List.Nodup.of_map (place ++ [·]) ?_
    rw [places]
    exact sound.nodup.sublist (List.filter_sublist.map _)
  rw [run_purge_of_listed listed, run_removeAll sound found isDir nodup, places]
  · refine congrArg (Prod.mk []) (FileTree.only_congr fun n inNodes => ?_)
    rw [Bool.eq_iff_iff, decide_eq_true_iff, FileTree.mem_places_only_iff sound inNodes]
    simp
  · intro name mem
    have here := List.mem_map_of_mem (f := (place ++ [·])) mem
    rw [places] at here
    obtain ⟨⟨p, node, modified⟩, chosen, rfl⟩ := List.mem_map.mp here
    obtain ⟨inNodes, gone⟩ := List.mem_filter.mp chosen
    cases node with
    | file content => exact ⟨content, modified, inNodes⟩
    | directory => simp [isExpiredAt, isExpired, FileTree.entryOf] at gone

theorem entries_purged (sound : t.Sound) (found : t.place? directory = some place)
    (isDir : t.isDirectory place = true) :
    (t.only fun n => !isExpiredAt now days place n).entries directory =
      some (((t.nodes.filter (FileTree.isEntryOf place)).map FileTree.entryOf).filter
        fun e => !isExpired now days e) := by
  rw [FileTree.entries_eq
    (FileTree.place?_only sound keepsDirectories_not_isExpiredAt found isDir)
    (FileTree.isDirectory_only sound keepsDirectories_not_isExpiredAt isDir)]
  rw [FileTree.only, List.filter_map, List.filter_filter, List.filter_filter]
  refine congrArg (fun nodes => some (nodes.map FileTree.entryOf)) (List.filter_congr fun n _ => ?_)
  rw [isExpiredAt, Function.comp_apply]
  cases FileTree.isEntryOf place n <;> simp

/-- What a purge leaves of the entries of a directory. -/
structure Purges (now : Instant) (days : Nat) (entries remaining : List DirectoryEntry) : Prop where
  sublist : remaining.Sublist entries
  removed : ¬ ReachesBeyond now days → ∀ e ∈ entries, e ∉ remaining ↔ IsExpiredLog now days e
  recent : ∀ e ∈ entries, 0 < e.modified → (e ∉ remaining ↔ IsExpiredLog now days e)
  /-- A retention time that reaches too far back does not save what is dated up to 1970. -/
  old : ReachesBeyond now days → now / nanosecondsPerSecond < latest → ∀ e ∈ entries,
    e.modified ≤ 0 → (e ∉ remaining ↔ e.isFile = true ∧ logFilePrefix.toList <+: e.name.toList)

theorem purges_filter (known : now / nanosecondsPerSecond ≤ latest)
    (entries : List DirectoryEntry) :
    Purges now days entries (entries.filter fun e => !isExpired now days e) := by
  have gone {e : DirectoryEntry} (mem : e ∈ entries) :
      e ∉ entries.filter (fun e => !isExpired now days e) ↔ isExpired now days e = true := by
    simp [mem]
  constructor
  case sublist => exact List.filter_sublist
  case removed =>
    intro within e mem
    rw [gone mem, isExpired_iff_isExpiredLog known (.inl within)]
  case recent =>
    intro e mem recent
    rw [gone mem, isExpired_iff_isExpiredLog known (.inr recent)]
  case old =>
    intro beyond early e mem old
    rw [gone mem, isExpired_iff, cutoff_of_reachesBeyond early beyond]
    simp only [old, and_true]

/-- The purge goes without a warning, changes nothing outside the directory and leaves there what
`Purges` says. With more days more stays, again but for what is dated up to 1970 where the days reach
too far back. -/
theorem purge_removes (clock : Instant) (sound : t.Sound) (found : t.place? directory = some place)
    (isDir : t.isDirectory place = true) (known : now / nanosecondsPerSecond ≤ latest) :
    ∃ entries, t.entries directory = some entries ∧ ∃ remaining : Nat → List DirectoryEntry,
      ∀ days, Purges now days entries (remaining days) ∧
        (∃ t', (purge (FileTree.files clock) directory days now).run t = ([], t') ∧
          t'.entries directory = some (remaining days) ∧
          t'.nodes.filter (fun n => !FileTree.isEntryOf place n) =
            t.nodes.filter fun n => !FileTree.isEntryOf place n) ∧
        ∀ fewer ≤ days, ∀ e ∈ remaining fewer, ¬ ReachesBeyond now days ∨ 0 < e.modified →
          e ∈ remaining days := by
  refine ⟨_, FileTree.entries_eq found isDir, fun days => _, fun days =>
    ⟨purges_filter known _, ⟨_, run_purge_eq sound found isDir, entries_purged sound found isDir, ?_⟩,
      ?_⟩⟩
  · rw [FileTree.only, List.filter_filter]
    refine List.filter_congr fun n _ => ?_
    rw [isExpiredAt]
    cases FileTree.isEntryOf place n <;> rfl
  · intro fewer le e kept spared
    obtain ⟨mem, kept⟩ := List.mem_filter.mp kept
    refine List.mem_filter.mpr ⟨mem, ?_⟩
    rw [Bool.not_eq_true'] at kept ⊢
    exact eq_false_of_ne_true fun expired =>
      Bool.eq_false_iff.mp kept (isExpired_of_le known le spared expired)

/-! ### Logs of 1970 -/

/-- The directory of the logs with a file that was last written to as 1970 began. -/
def logsOf1970 : FileTree :=
  ⟨[(["logs"], .directory, 0), (["logs", "lms-launch.log.1970-01-01"], .file [], 0)]⟩

/-- A time in the year 2027. -/
def in2027 : Instant := 1800000000 * nanosecondsPerSecond

def logOf1970 : DirectoryEntry := ⟨"lms-launch.log.1970-01-01", true, 0⟩

theorem sound_logsOf1970 : logsOf1970.Sound where
  nodup := by decide
  named n mem name inName := by
    have known : name = "logs" ∨ name = "lms-launch.log.1970-01-01" := by
      simp only [logsOf1970, List.mem_cons, List.not_mem_nil, or_false] at mem
      rcases mem with rfl | rfl <;> simp_all
    rcases known with rfl | rfl <;> exact ⟨by decide, by decide, by decide⟩

/-- After fourteen days a log file of 1970 is removed. -/
theorem purge_removes_logsOf1970 :
    logsOf1970.Sound ∧ logsOf1970.place? "logs" = some ["logs"] ∧
      logsOf1970.isDirectory ["logs"] = true ∧ in2027 / nanosecondsPerSecond ≤ latest ∧
      ∃ t' remaining, (purge (FileTree.files in2027) "logs" 14 in2027).run logsOf1970 = ([], t') ∧
        t'.entries "logs" = some remaining ∧ Purges in2027 14 [logOf1970] remaining ∧
        logOf1970 ∉ remaining := by
  have found : logsOf1970.place? "logs" = some ["logs"] := by decide
  have isDir : logsOf1970.isDirectory ["logs"] = true := by decide
  have known : in2027 / nanosecondsPerSecond ≤ latest := by decide
  obtain ⟨entries, listed, remaining, purges⟩ :=
    purge_removes in2027 sound_logsOf1970 found isDir known
  obtain rfl : [logOf1970] = entries := Option.some.inj listed
  obtain ⟨purges, ⟨t', run, left, -⟩, -⟩ := purges 14
  have within : ¬ ReachesBeyond in2027 14 := by decide
  have expired : IsExpiredLog in2027 14 logOf1970 := by decide
  exact ⟨sound_logsOf1970, found, isDir, known, t', remaining 14, run, left, purges,
    (purges.removed within logOf1970 List.mem_cons_self).mpr expired⟩

/-- Thirty thousand days leave a file of 1970 where the greatest number of days removes it, long
before its time. -/
theorem purge_of_greatest :
    (purge (FileTree.files in2027) "logs" 30000 in2027).run logsOf1970 = ([], logsOf1970) ∧
      (purge (FileTree.files in2027) "logs" (Nat.pow 2 64 - 1) in2027).run logsOf1970 =
        ([], ⟨[(["logs"], .directory, 0)]⟩) ∧
      ¬ IsExpiredLog in2027 (Nat.pow 2 64 - 1) logOf1970 := by
  exact ⟨rfl, rfl, by decide⟩

end LtiLaunch.Retention
