/-
Files.

A path is writable on a machine that lets every text be written there (`Platform.Writable`), and it
keeps what is written if that is what is read there next (`Platform.Keeps`).  On a machine that is a
value both are so of a file that is there and of one that is missing from a directory that is there;
the devices keep nothing (`Machine.writable`, `Machine.keeps`).
-/
import AuditReminder.Disk

namespace AuditReminder

namespace Platform

variable {σ : Type}

/-- Every text can be written at the path. -/
def Writable (platform : Platform (StateM σ)) (path : String) (s : σ) : Prop :=
  ∀ text, ∃ s', (platform.writeText path text).run s = (.ok (), s')

/-- What is written at the path is what is read there next. -/
def Keeps (platform : Platform (StateM σ)) (path : String) (s : σ) : Prop :=
  ∀ text s', (platform.writeText path text).run s = (.ok (), s') →
    ((platform.readText path).run s').1 = .ok text

end Platform

namespace Disk

variable {disk disk' : Disk} {path : Path}

/-! ## Entries -/

theorem find?_put (disk : Disk) (path other : Path) (entry : Entry) :
    (disk.put path entry).entries.find? (·.1 == other)
      = if other = path then some (path, entry) else disk.entries.find? (·.1 == other) := by
  unfold put
  split
  · next hany =>
    have hkey (e : Path × Entry) : (if e.1 == path then (path, entry) else e).1 = e.1 := by
      split
      · next h => exact (beq_iff_eq.mp h).symm
      · rfl
    have hfind : ((fun e : Path × Entry => e.1 == other)
        ∘ fun e => if e.1 == path then (path, entry) else e) = fun e => e.1 == other := by
      funext e
      exact congrArg (· == other) (hkey e)
    rw [List.find?_map, hfind]
    split
    · next hsame =>
      subst hsame
      have hthere := List.find?_isSome.mpr (List.any_eq_true.mp hany)
      obtain ⟨e, he⟩ := Option.isSome_iff_exists.mp hthere
      rw [he, Option.map_some, if_pos (List.find?_some he)]
    · next hother =>
      rcases he : disk.entries.find? (·.1 == other) with _ | e
      · rw [he]
        rfl
      · have hname : e.1 = other := by simpa using List.find?_some he
        rw [he, Option.map_some, if_neg (by simpa [hname] using hother)]
  · next hany =>
    rw [List.find?_append]
    split
    · next hsame =>
      subst hsame
      have hnone : disk.entries.find? (·.1 == other) = none := by
        rw [List.find?_eq_none]
        intro e he hkey
        exact hany (List.any_eq_true.mpr ⟨e, he, hkey⟩)
      rw [hnone, Option.none_or, List.find?_cons_of_pos (by simp)]
    · next hother =>
      have hnone : [(path, entry)].find? (·.1 == other) = none := by
        simpa using fun h => hother h.symm
      rw [hnone, Option.or_none]

theorem entry?_put_self (hpath : path ≠ []) (entry : Entry) :
    Disk.entry? (disk.put path entry) path = some entry := by
  unfold Disk.entry?
  rw [if_neg hpath, find?_put, if_pos rfl]
  rfl

theorem entry?_put_other {other : Path} (h : other ≠ path) (entry : Entry) :
    Disk.entry? (disk.put path entry) other = disk.entry? other := by
  unfold Disk.entry?
  rw [find?_put, if_neg h]

/-! ## Ways to a file -/

/-- The way to a shorter path does not lead over the entry that is put. -/
theorem walk_put (entry : Entry) (before names : Path)
    (hshort : (before ++ names).length < path.length) :
    (disk.put path entry).walk before names = disk.walk before names := by
  have hbefore : Disk.entry? (disk.put path entry) before = disk.entry? before := by
    refine entry?_put_other ?_ entry
    rintro rfl
    rw [List.length_append] at hshort
    omega
  induction names generalizing before with
  | nil => rw [walk, walk, hbefore]
  | cons name names ih =>
      have hnext : before ++ [name] ++ names = before ++ name :: names := List.append_assoc ..
      have hother : before ++ [name] ≠ path := by
        rintro rfl
        rw [← hnext, List.length_append] at hshort
        omega
      have hrest := ih (before ++ [name]) (hnext ▸ hshort) (entry?_put_other hother entry)
      rw [walk, walk, hbefore, hrest]

/-- The last step of a way leads out of a directory. -/
theorem walk_last_eq_ok_iff {before names : Path} {name : String} {entry : Entry} :
    disk.walk before (names ++ [name]) = .ok entry ↔
      disk.walk before names = .ok .directory ∧
        disk.entry? (before ++ names ++ [name]) = some entry := by
  induction names generalizing before with
  | nil =>
      rw [List.nil_append, List.append_nil, walk, walk]
      rcases disk.entry? before with _ | _ | text
      · simp
      · rw [walk]
        rcases disk.entry? (before ++ [name]) with _ | found <;> simp
      all_goals simp
  | cons next names ih =>
      rw [List.cons_append, walk, walk]
      rcases disk.entry? before with _ | _ | text
      · simp
      · have hway : before ++ [next] ++ names = before ++ next :: names := List.append_assoc ..
        rw [ih, hway]
      all_goals simp

/-! ## What is written is read -/

/-- A file is there, or a directory in which it can be made. -/
def Holds (disk : Disk) (path : Path) : Prop :=
  (∃ text, disk.find path = .ok (.file text)) ∨
    disk.find path = .error .notFound ∧ disk.find path.dropLast = .ok .directory

theorem write_of_holds (h : disk.Holds path) (text : String) :
    disk.write path text = .ok (disk.put path (.file text)) := by
  unfold write change
  rcases h with ⟨before, hfile⟩ | ⟨hmissing, hdirectory⟩
  · rw [hfile]
  · rw [hmissing, hdirectory]

theorem read_put_of_holds (h : disk.Holds path) (text : String) :
    (disk.put path (.file text)).read path = .ok text := by
  rcases List.eq_nil_or_concat path with rfl | ⟨names, name, rfl⟩
  · -- the root is a directory
    rcases h with ⟨before, hfile⟩ | ⟨hmissing, -⟩
    · cases hfile
    · cases hmissing
  · rw [List.concat_eq_append] at h ⊢
    have hdirectory : disk.walk [] names = .ok .directory := by
      rcases h with ⟨before, hfile⟩ | ⟨-, hdirectory⟩
      · exact (walk_last_eq_ok_iff.mp hfile).1
      · rwa [List.dropLast_concat] at hdirectory
    have hfind : (disk.put (names ++ [name]) (.file text)).find (names ++ [name])
        = .ok (.file text) := by
      refine walk_last_eq_ok_iff.mpr ⟨?_, ?_⟩
      · rw [walk_put _ [] names (by simp), hdirectory]
      · exact entry?_put_self (by simp) _
    rw [read, hfind]
    rfl

end Disk

namespace Machine

variable {machine : Machine} {path : String}

theorem writeText_of_holds (h : machine.disk.Holds (Disk.resolve machine.directory path))
    (text : String) :
    (platform.writeText path text).run machine = (.ok (),
      { machine with disk := machine.disk.put (Disk.resolve machine.directory path) (.file text) })
    := by
  show (onDisk (fun disk path => disk.write path text) path).run machine = _
  unfold onDisk
  simp only [StateT.run, bind, StateT.bind, get, getThe, MonadStateOf.get, StateT.get, pure,
    Disk.write_of_holds h]
  rfl

theorem writable (h : machine.disk.Holds (Disk.resolve machine.directory path)) :
    platform.Writable path machine :=
  fun text => ⟨_, writeText_of_holds h text⟩

theorem keeps (h : machine.disk.Holds (Disk.resolve machine.directory path)) :
    platform.Keeps path machine := by
  intro text s' hwrite
  cases (writeText_of_holds h text).symm.trans hwrite
  exact Disk.read_put_of_holds h text

/-- A machine with nothing but the devices on its disk. -/
def bare : Machine := ⟨.blank, [], [], .epoch, 0, "", ""⟩

theorem resolve_bare : Disk.resolve bare.directory "config.toml" = ["config.toml"] := by
  decide +kernel

theorem find_bare : bare.disk.find (Disk.resolve bare.directory "config.toml")
    = .error .notFound := by
  rw [resolve_bare]
  rfl

theorem holds_bare : bare.disk.Holds (Disk.resolve bare.directory "config.toml") := by
  refine Or.inr ⟨find_bare, ?_⟩
  rw [resolve_bare]
  rfl

end Machine

end AuditReminder
