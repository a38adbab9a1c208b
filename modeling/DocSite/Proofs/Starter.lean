import DocSite.Command.Run
import DocSite.Proofs.Disk
import DocSite.Proofs.Template

/-!
# What writing the starter files leaves behind

  The configuration is checked before anything is done, and it always passes. The
  files are written one after the other, into a directory that may have to be made
  first, and nothing that was done is taken back when a later step fails. So the
  attempt can end in five ways, and each of them says what is on the disk then:
  a refusal changes nothing, a failure before the first file leaves new directories
  at most, and the first file stays when the second one cannot be written.
-/

namespace DocSite

/-! ## Running -/

namespace Running

theorem run_bind {α β : Type} (first : Running α) (next : α → Running β) (s : Session) :
    (first >>= next).run.run s =
      match first.run.run s with
      | (.ok a, s') => (next a).run.run s'
      | (.error failure, s') => (.error failure, s') := by
  rw [ExceptT.run_bind, StateT.run_bind]
  obtain ⟨result, s'⟩ := first.run.run s
  cases result with
  | error failure => rfl
  | ok a => rfl

theorem run_get_bind {β : Type} (next : Session → Running β) (s : Session) :
    ((get : Running Session) >>= next).run.run s = (next s).run.run s := rfl

/-- A computation that appends nothing to the log leaves the session as it is. -/
theorem run_load {α : Type} {action : Disk → Loading α} {a : α} {s : Session}
    (h : (action s.disk).run s.log = (.ok a, s.log)) :
    (load action).run.run s = (.ok a, s) := by
  rw [load, run_get_bind]
  simp only [h]
  rfl

theorem run_makeDirs (dir : Path) (s : Session) :
    (makeDirs dir).run.run s =
      ((s.disk.makeDirs dir).2.mapError (.dirNotMade dir),
        { s with disk := (s.disk.makeDirs dir).1 }) := by
  rw [makeDirs, run_get_bind]
  cases s.disk.makeDirs dir with
  | mk disk result =>
    cases result with
    | error why => rfl
    | ok _ => rfl

theorem run_writeFile (file : Path) (text : String) (s : Session) :
    (writeFile file text).run.run s =
      match s.disk.write file text with
      | .ok disk => (.ok (), { s with disk })
      | .error why => (.error (.fileNotWritten file why), s) := by
  rw [writeFile, run_get_bind]
  cases s.disk.write file text with
  | error why => rfl
  | ok disk => rfl

end Running

namespace Starter

/-! ## The check of the template -/

/-- A text that is read without a log and without findings passes the check. -/
theorem run_checkTemplate {text : String} {reading : SiteReading}
    (hparse : SiteConfig.parse text = .ok reading) (hlog : reading.log = "")
    (herrors : reading.config.diagnostics.errors = [])
    (hwarnings : reading.config.diagnostics.warnings = []) (log : String) :
    (checkTemplate text).run log = (.ok (), log) := by
  have hok : reading.config.diagnostics.isOk = true := by simp [Diagnostics.isOk, herrors]
  have hnone : Log.warnings reading.config.diagnostics = "" := by
    simp [Log.warnings, hwarnings]
  have htwice : (log ++ "") ++ "" = log := by simp
  rw [checkTemplate, hparse]
  simp only [accept, hlog, hok, hnone]
  exact congrArg (Prod.mk (Except.ok ())) htwice

/-- Behind such a check the session is the one in front of it. The text is any here, since the
check of a given one would be carried out when its run is unfolded. -/
theorem run_behind_checkTemplate {text : String} {reading : SiteReading}
    (hparse : SiteConfig.parse text = .ok reading) (hlog : reading.log = "")
    (herrors : reading.config.diagnostics.errors = [])
    (hwarnings : reading.config.diagnostics.warnings = []) (rest : Running Unit) (s : Session) :
    (do
      Running.load fun _ => checkTemplate text
      rest : Running Unit).run.run s = rest.run.run s := by
  rw [Running.run_bind,
    Running.run_load (run_checkTemplate hparse hlog herrors hwarnings s.log)]

/-- The template passes, so that only the files decide. -/
theorem run_install (root : Path) (force : Bool) (s : Session) :
    (install root force).run.run s = (writeFiles root force).run.run s := by
  obtain ⟨reading, hparse, -, hlog, herrors, hwarnings⟩ := parse_configText
  exact run_behind_checkTemplate hparse hlog herrors hwarnings (writeFiles root force) s

/-! ## Writing one file after the other -/

/-- How files are written into a directory: all of them, or those before the first that fails. -/
inductive Writes (root : Path) : List (String × String) → Disk → Except Failure Unit → Disk → Prop
  | nil {d : Disk} : Writes root [] d (.ok ()) d
  | failed {d : Disk} {name text : String} {rest : List (String × String)} {why : OsError}
      (hwrite : d.write (root.join ⟨name⟩) text = .error why) :
      Writes root ((name, text) :: rest) d (.error (.fileNotWritten (root.join ⟨name⟩) why)) d
  | wrote {d d₁ d' : Disk} {name text : String} {rest : List (String × String)}
      {result : Except Failure Unit} (hwrite : d.write (root.join ⟨name⟩) text = .ok d₁)
      (hrest : Writes root rest d₁ result d') : Writes root ((name, text) :: rest) d result d'

theorem run_writeInto (root : Path) (name text : String) (s : Session) :
    (writeInto root name text).run.run s =
      match s.disk.write (root.join ⟨name⟩) text with
      | .ok disk =>
        (.ok (), { s with
          disk, log := s.log ++ Log.line "init" ("wrote " ++ (root.join ⟨name⟩).text) })
      | .error why => (.error (.fileNotWritten (root.join ⟨name⟩) why), s) := by
  rw [writeInto, Running.run_bind, Running.run_writeFile]
  cases s.disk.write (root.join ⟨name⟩) text with
  | error why => rfl
  | ok disk => rfl

/-- A run over a list of files ends as `Writes` says. -/
theorem writes_of_run (root : Path) (list : List (String × String)) (s : Session) :
    Writes root list s.disk
      ((list.forM fun (name, text) => writeInto root name text).run.run s).1
      ((list.forM fun (name, text) => writeInto root name text).run.run s).2.disk := by
  -- Each file is written to the disk that the one before has left, so the session varies.
  induction list generalizing s with
  | nil => exact .nil
  | cons file rest ih =>
    obtain ⟨name, text⟩ := file
    rw [List.forM, Running.run_bind, run_writeInto]
    cases hwrite : s.disk.write (root.join ⟨name⟩) text with
    | error why => exact .failed hwrite
    | ok disk => exact .wrote hwrite (ih { s with disk, log := _ })

/-! ## The whole attempt -/

/-- How the attempt to write the starter files can end, and what is on the disk then. -/
inductive Leaves (root : Path) (force : Bool) (d : Disk) : Except Failure Unit → Disk → Prop
  /-- A file that is there already is refused without force, and the disk stays as it is. -/
  | refused {file : Path} (hforce : force = false)
      (hfile : file = root.join ⟨configFile⟩ ∨ file = root.join ⟨themeFile⟩)
      (hexists : d.exists? file = true) : Leaves root force d (.error (.alreadyExists file)) d
  /-- If the directory cannot be made, some of those above it may be new. -/
  | noDirectory {d' : Disk} {why : OsError} (hchanges : d.Changes (d.missingDirs root) [] d') :
      Leaves root force d (.error (.dirNotMade root why)) d'
  /-- If the configuration cannot be written, nothing is new but directories. -/
  | noConfig {d' : Disk} {why : OsError} (hchanges : d.Changes (d.missingDirs root) [] d') :
      Leaves root force d (.error (.fileNotWritten (root.join ⟨configFile⟩) why)) d'
  /-- A directory in the place of the theme is noticed only after the configuration was written. If
  the root was there before, that takes force. -/
  | noTheme {d' : Disk} (hforce : d.isDir root = true → force = true)
      (hconfig : d'.read (root.join ⟨configFile⟩) = .ok configText)
      (hchanges : d.Changes (d.missingDirs root) [root.join ⟨configFile⟩] d') :
      Leaves root force d
        (.error (.fileNotWritten (root.join ⟨themeFile⟩) .isDirectory)) d'
  /-- Both files have their texts, and nothing else is new but directories. Without force neither
  was there. -/
  | done {d' : Disk}
      (hfree : force = false → d.exists? (root.join ⟨configFile⟩) = false ∧
        d.exists? (root.join ⟨themeFile⟩) = false)
      (hconfig : d'.read (root.join ⟨configFile⟩) = .ok configText)
      (htheme : d'.read (root.join ⟨themeFile⟩) = .ok themeText)
      (hchanges : d.Changes (d.missingDirs root)
        [root.join ⟨configFile⟩, root.join ⟨themeFile⟩] d') :
      Leaves root force d (.ok ()) d'

theorem isFileName_configFile : Disk.IsFileName configFile :=
  ⟨⟨by decide, by decide, by decide⟩, by decide, by decide, by decide⟩

theorem isFileName_themeFile : Disk.IsFileName themeFile :=
  ⟨⟨by decide, by decide, by decide⟩, by decide, by decide, by decide⟩

/-- After the configuration, only a directory is in the way of the theme, and it was there
before. -/
theorem isDir_of_write_error {root : Path} {d d' : Disk} {why : OsError}
    (hconfig : d.write (root.join ⟨configFile⟩) configText = .ok d')
    (htheme : d'.write (root.join ⟨themeFile⟩) themeText = .error why) :
    why = .isDirectory ∧ d.isDir (root.join ⟨themeFile⟩) = true := by
  obtain ⟨parent, last, hnames, hputs⟩ := Disk.puts_of_write hconfig
  obtain rfl := hnames.last_eq isFileName_configFile.noSlash
  rw [String.ofList_toList] at hputs
  -- The path of the theme leads to the same directory, and is refused neither for its length nor
  -- for its characters; so what stands there decides.
  have hbeside := hnames.beside isFileName_configFile.noSlash isFileName_themeFile (by decide)
  have hplace : parent ++ [themeFile] ≠ parent ++ [configFile] := by
    simp [themeFile, configFile]
  rw [Disk.write_of_names (hbeside.of_within hputs.cwd hputs.within)
    isFileName_themeFile.checkName, hputs.entry, if_neg hplace] at htheme
  split at htheme
  · rename_i hdir
    refine ⟨(Except.error.inj htheme).symm, Disk.isDir_iff.2 ⟨parent ++ [themeFile], ?_, hdir⟩⟩
    have hlocate := hbeside.locate (by simpa using isFileName_themeFile.checkName)
      (by simp [hdir]) (by simp)
    simpa using hlocate
  · cases htheme

/-- The attempt behind the check, once the directory is there. -/
theorem leaves_of_writes {root : Path} {force : Bool} {d d₁ d' : Disk}
    {result : Except Failure Unit}
    (hfree : force = false → d.exists? (root.join ⟨configFile⟩) = false ∧
      d.exists? (root.join ⟨themeFile⟩) = false)
    (hmade : d.makeDirs root = (d₁, .ok ())) (h : Writes root files d₁ result d') :
    Leaves root force d result d' := by
  -- Making directories and writing files change no more than the attempt may change as a whole.
  have hdirs (list : List Path) : d.Changes (d.missingDirs root) list d₁ := by
    have hchanges := d.changes_makeDirs root
    rw [hmade] at hchanges
    exact hchanges.mono (List.Subset.refl _) (List.nil_subset list)
  have hwritten {d₂ d₃ : Disk} {name text : String} {list : List Path}
      (hmem : root.join ⟨name⟩ ∈ list) (hwrite : d₂.write (root.join ⟨name⟩) text = .ok d₃) :
      d₂.Changes (d.missingDirs root) list d₃ :=
    (Disk.changes_of_write hwrite).mono (List.nil_subset _) (by simpa using hmem)
  -- The cases are those of the loop: it stops at the first file, at the second, or at neither.
  cases h with
  | failed hconfig => exact .noConfig (hdirs [])
  | wrote hconfig hrest =>
    have hheld := Disk.holds_of_write isFileName_configFile.noSlash hconfig
    cases hrest with
    | failed htheme =>
      obtain ⟨rfl, hdir⟩ := isDir_of_write_error hconfig htheme
      refine .noTheme ?_ hheld.read ((hdirs _).trans (hwritten (by simp) hconfig))
      intro hroot
      -- No directory was made, so the check has seen the one that is in the way.
      obtain rfl : d = d₁ := by
        rw [Disk.makeDirs_of_isDir hroot] at hmade
        exact (Prod.mk.inj hmade).1
      by_contra hforce
      have hnone := (hfree (by simpa using hforce)).2
      rw [Disk.exists?_of_isDir hdir] at hnone
      cases hnone
    | wrote htheme hrest =>
      cases hrest with
      | nil =>
        have hkept := hheld.of_write isFileName_themeFile.noSlash (by decide) htheme
        have htext := Disk.holds_of_write isFileName_themeFile.noSlash htheme
        exact .done hfree hkept.read htext.read
          (((hdirs _).trans (hwritten (by simp) hconfig)).trans (hwritten (by simp) htheme))

/-- The attempt behind the check for files that are there. -/
theorem leaves_of_free {root : Path} {force : Bool} {s : Session}
    (hfree : force = false → s.disk.exists? (root.join ⟨configFile⟩) = false ∧
      s.disk.exists? (root.join ⟨themeFile⟩) = false) :
    let run := (do
      Running.makeDirs root
      files.forM fun (name, text) => writeInto root name text : Running Unit).run.run s
    Leaves root force s.disk run.1 run.2.disk := by
  simp only
  rw [Running.run_bind, Running.run_makeDirs]
  have hchanges := s.disk.changes_makeDirs root
  cases hmade : s.disk.makeDirs root with
  | mk disk result =>
    rw [hmade] at hchanges
    cases result with
    | error why => exact .noDirectory hchanges
    | ok _ => exact leaves_of_writes hfree hmade (writes_of_run root files { s with disk })

/-- Whatever the directory, the disk and the command say, the attempt ends in one of these ways. -/
theorem install_leaves (root : Path) (force : Bool) (s : Session) :
    Leaves root force s.disk ((install root force).run.run s).1
      ((install root force).run.run s).2.disk := by
  rw [run_install, writeFiles, Running.run_get_bind]
  simp only
  split
  · rename_i file hfind
    refine .refused rfl ?_ (List.find?_some hfind)
    simpa [files] using List.mem_of_find?_eq_some hfind
  · rename_i hcheck
    apply leaves_of_free
    intro hforce
    cases hfind : (files.map fun (name, _) => root.join ⟨name⟩).find? s.disk.exists? with
    | some file => exact absurd hforce (hcheck file hfind)
    | none => simpa [files] using hfind

/-! ## Attempts that fail halfway -/

/-- A disk with an old configuration, a directory in the place of the theme, and a note. -/
def clutteredDisk : Disk where
  cwd := ⟨"/w"⟩
  tree := .dir [("w", .dir
    [("metasite.toml", .file "old"), ("theme.toml", .dir []), ("note", .file "")])]

/-- What was done is not undone. With force, the configuration is gone when the theme turns out to
be a directory; without it, a directory on the way to the root is there when the root turns out to
be a file. -/
theorem install_failure_not_undone :
    let forced := (install ⟨"/w"⟩ true).run.run { disk := clutteredDisk }
    let plain := (install ⟨"/w/new/../note"⟩ false).run.run { disk := clutteredDisk }
    (forced.1.toBool = false ∧ clutteredDisk.read ⟨"/w/metasite.toml"⟩ = .ok "old" ∧
      forced.2.disk.read ⟨"/w/metasite.toml"⟩ ≠ .ok "old") ∧
    plain.1.toBool = false ∧ clutteredDisk.exists? ⟨"/w/new"⟩ = false ∧
      plain.2.disk.isDir ⟨"/w/new"⟩ = true := by
  simp only [run_install]
  refine ⟨⟨?_, ?_, ?_⟩, ?_, ?_, ?_⟩ <;> decide +kernel

end Starter

end DocSite
