import DocSite.Disk
import DocSite.Proofs.FileTree
import DocSite.Proofs.Path

/-!
# What changes on a disk

  Writing a file and making a directory change what stands at one place and nothing
  else, and the path then leads to that place. Since neither takes anything away,
  paths that led somewhere lead there still; so runs of such steps can be described
  by what they add. The files of one directory are looked up at one place, where only
  a directory is in the way of writing them.
-/

namespace DocSite

open DocSite.Text

/-! ## Following paths -/

/-- A computation succeeds when its parts do. -/
theorem bind_eq_ok_iff {ε α β : Type} {x : Except ε α} {f : α → Except ε β} {b : β} :
    (x >>= f) = .ok b ↔ ∃ a, x = .ok a ∧ f a = .ok b := by
  cases x <;> simp [bind, Except.bind]

namespace Disk

open FileTree (Entry Within)

/-- A piece that is the name of an entry. -/
structure IsName (piece : List Char) : Prop where
  nonempty : piece ≠ []
  notHere : piece ≠ ['.']
  notUp : piece ≠ ['.', '.']

/-- Where a piece leads from a directory. -/
inductive Leads (tree : FileTree) (place : List String) (piece : List Char) : List String → Prop
  /-- A piece that says nothing leads nowhere else. -/
  | stay (hmute : piece = [] ∨ piece = ['.']) : Leads tree place piece place
  /-- Two dots lead to the directory above. -/
  | up (hup : piece = ['.', '.']) : Leads tree place piece place.dropLast
  /-- A name leads to the entry with this name. -/
  | enter (hname : IsName piece)
      (hcheck : checkName (String.ofList piece) = .ok (String.ofList piece))
      (hentry : (tree.entryAt (place ++ [String.ofList piece])).isSome = true) :
      Leads tree place piece (place ++ [String.ofList piece])

theorem checkName_eq_ok {name found : String} (h : checkName name = .ok found) : found = name := by
  rw [checkName] at h
  split at h
  · cases h
  · exact (Except.ok.inj h).symm

/-- One piece can be followed from directories only, and leads where it says. -/
theorem follow_single_eq_ok_iff {tree : FileTree} {place next : List String}
    {piece : List Char} :
    follow tree place [piece] = .ok next ↔
      tree.entryAt place = some .dir ∧ Leads tree place piece next := by
  rw [follow]
  cases hnode : tree.get? place with
  | none => simp [FileTree.entryAt, hnode]
  | some node =>
    cases node with
    | file text => simp [FileTree.entryAt, hnode, FileTree.entry]
    | dir entries =>
      have hdir : tree.entryAt place = some .dir := FileTree.entryAt_eq_dir_iff.2 ⟨entries, hnode⟩
      simp only [follow, hdir, true_and]
      -- A piece stays, goes up or names an entry; the reader tells them apart in this order.
      by_cases hmute : piece = [] ∨ piece = ['.']
      · rw [if_pos (by simpa using hmute)]
        constructor
        · intro h
          obtain rfl := Except.ok.inj h
          exact .stay hmute
        · rintro (_ | hup | hname)
          · rfl
          · simp [hup] at hmute
          · exact absurd hmute (not_or.2 ⟨hname.nonempty, hname.notHere⟩)
      · rw [if_neg (by simpa using hmute)]
        by_cases hup : piece = ['.', '.']
        · rw [if_pos hup]
          constructor
          · intro h
            obtain rfl := Except.ok.inj h
            exact .up hup
          · rintro (hmute' | _ | hname)
            · exact absurd hmute' hmute
            · rfl
            · exact absurd hup hname.notUp
        · rw [if_neg hup]
          have hname : IsName piece := ⟨fun h => hmute (.inl h), fun h => hmute (.inr h), hup⟩
          have hlookup (name : String) :
              (tree.entryAt (place ++ [name])).isSome = (Table.lookup name entries).isSome := by
            simp [FileTree.entryAt, FileTree.get?_concat hnode]
          constructor
          · intro h
            split at h
            · cases h
            · rename_i name hcheck
              obtain rfl := checkName_eq_ok hcheck
              split at h
              · cases h
              · rename_i node hentry
                obtain rfl := Except.ok.inj h
                exact .enter hname hcheck (by rw [hlookup, hentry]; rfl)
          · rintro (hmute' | hup' | ⟨-, hcheck, hentry⟩)
            · exact absurd hmute' hmute
            · exact absurd hup' hup
            · rw [hlookup] at hentry
              obtain ⟨node, hnode⟩ := Option.isSome_iff_exists.1 hentry
              simp only [hcheck, hnode]

/-- Pieces are followed one after the other. -/
theorem follow_cons (tree : FileTree) (place : List String) (piece : List Char)
    (rest : List (List Char)) :
    follow tree place (piece :: rest) =
      follow tree place [piece] >>= fun next => follow tree next rest := by
  simp only [follow]
  cases tree.get? place with
  | none => rfl
  | some node =>
    cases node with
    | file text => rfl
    | dir entries =>
      simp only
      -- The first piece alone takes the same branch and ends where the rest starts.
      split
      · rfl
      · split
        · rfl
        · cases checkName (String.ofList piece) with
          | error e => rfl
          | ok name =>
            simp only
            cases Table.lookup name entries with
            | none => rfl
            | some node => rfl

theorem follow_append (tree : FileTree) (place : List String) (front back : List (List Char)) :
    follow tree place (front ++ back) =
      follow tree place front >>= fun next => follow tree next back := by
  induction front generalizing place with
  | nil => rfl
  | cons piece front ih =>
    rw [List.cons_append, follow_cons, follow_cons tree place piece front]
    cases follow tree place [piece] with
    | error e => rfl
    | ok next => exact ih next

/-- Where pieces lead in a tree, they lead in a larger one. -/
theorem follow_of_within {tree whole : FileTree} (h : Within tree whole)
    {pieces : List (List Char)} {place found : List String}
    (hfollow : follow tree place pieces = .ok found) : follow whole place pieces = .ok found := by
  induction pieces generalizing place with
  | nil => exact hfollow
  | cons piece rest ih =>
    rw [follow_cons, bind_eq_ok_iff] at hfollow ⊢
    obtain ⟨next, hnext, hrest⟩ := hfollow
    obtain ⟨hdir, hleads⟩ := follow_single_eq_ok_iff.1 hnext
    refine ⟨next, follow_single_eq_ok_iff.2 ⟨h.dir hdir, ?_⟩, ih hrest⟩
    cases hleads with
    | stay hmute => exact .stay hmute
    | up hup => exact .up hup
    | enter hname hcheck hentry => exact .enter hname hcheck (h.isSome hentry)

/-- Empty pieces at the end of a path ask for a directory. -/
theorem follow_blanks {tree : FileTree} {place : List String} {blanks : List (List Char)}
    (hblanks : ∀ piece ∈ blanks, piece = []) (hdir : blanks ≠ [] → tree.entryAt place = some .dir) :
    follow tree place blanks = .ok place := by
  induction blanks with
  | nil => rfl
  | cons piece rest ih =>
    have hplace := hdir (by simp)
    rw [follow_cons, follow_single_eq_ok_iff.2 ⟨hplace, .stay (.inl (hblanks piece (by simp)))⟩]
    exact ih (fun p hp => hblanks p (List.mem_cons_of_mem _ hp)) fun _ => hplace

theorem pieces_of_cwd {d d' : Disk} (hcwd : d'.cwd = d.cwd) (p : Path) :
    d'.pieces p = d.pieces p := by
  rw [pieces, pieces, hcwd]

/-- A path leads to the same place on a disk that holds all of another one. -/
theorem locate_of_within {d whole : Disk} (hcwd : whole.cwd = d.cwd)
    (h : Within d.tree whole.tree) {p : Path} {place : List String}
    (hlocate : d.locate p = .ok place) : whole.locate p = .ok place := by
  rw [locate, bind_eq_ok_iff] at hlocate ⊢
  obtain ⟨ps, hps, hfollow⟩ := hlocate
  exact ⟨ps, (pieces_of_cwd hcwd p).trans hps, follow_of_within h hfollow⟩

/-! ## Where new entries go -/

/-- Pieces are all empty, or they have a last one that is not. -/
theorem blanks_or_last (ps : List (List Char)) : (∀ piece ∈ ps, piece = []) ∨
    ∃ before last blanks, ps = before ++ last :: blanks ∧ last ≠ [] ∧
      ∀ piece ∈ blanks, piece = [] := by
  induction ps with
  | nil => exact .inl (by simp)
  | cons piece rest ih =>
    rcases ih with hblanks | ⟨before, last, blanks, rfl, hlast, hblanks⟩
    · by_cases hpiece : piece = []
      · exact .inl (List.forall_mem_cons.2 ⟨hpiece, hblanks⟩)
      · exact .inr ⟨[], piece, rest, rfl, hpiece, hblanks⟩
    · exact .inr ⟨piece :: before, last, blanks, rfl, hlast, hblanks⟩

theorem dropWhile_isEmpty_append {blanks : List (List Char)} (h : ∀ piece ∈ blanks, piece = [])
    (rest : List (List Char)) :
    (blanks ++ rest).dropWhile List.isEmpty = rest.dropWhile List.isEmpty := by
  apply List.dropWhile_append_of_pos
  intro piece hpiece
  simp [h piece hpiece]

/-- A path of empty pieces names no entry. -/
theorem target_of_blanks {d : Disk} {p : Path} {ps : List (List Char)}
    (hps : d.pieces p = .ok ps) (hblanks : ∀ piece ∈ ps, piece = []) :
    d.target p = .ok .fixed := by
  have hreversed : ∀ piece ∈ ps.reverse, piece = [] := by simpa using hblanks
  have htrimmed : ps.reverse.dropWhile List.isEmpty = [] := by
    simpa using dropWhile_isEmpty_append hreversed []
  rw [target, hps]
  simp only [bind, Except.bind, htrimmed]
  rfl

/-- The last piece that is not empty is the entry; the pieces before it lead to its directory. -/
theorem target_of_last {d : Disk} {p : Path} {before blanks : List (List Char)} {last : List Char}
    (hps : d.pieces p = .ok (before ++ last :: blanks)) (hlast : last ≠ [])
    (hblanks : ∀ piece ∈ blanks, piece = []) :
    d.target p = follow d.tree [] before >>= fun parent =>
      if last = ['.'] || last = ['.', '.'] then .ok .fixed
      else
        match d.tree.get? parent with
        | some (.dir _) => .ok (.entry parent (String.ofList last) (!blanks.isEmpty))
        | some (.file _) => .error .notDirectory
        | none => .error .notFound := by
  -- Seen from the back, the empty pieces come first and then the entry.
  have hreverse : (before ++ last :: blanks).reverse =
      blanks.reverse ++ last :: before.reverse := by
    simp
  have htrimmed : (blanks.reverse ++ last :: before.reverse).dropWhile List.isEmpty =
      last :: before.reverse := by
    rw [dropWhile_isEmpty_append (by simpa using hblanks)]
    exact List.dropWhile_cons_of_neg (by simpa using hlast)
  -- Pieces were dropped just if a slash stands behind the entry.
  have hslash : decide ((last :: before.reverse).length <
      (blanks.reverse ++ last :: before.reverse).length) = !blanks.isEmpty := by
    cases blanks with
    | nil => simp
    | cons piece rest =>
      simp
      omega
  rw [target, hps]
  simp only [bind, Except.bind, hreverse, htrimmed, List.reverse_reverse, hslash]
  rfl

/-- A path whose last component is the name of an entry, with the directory that the path before
it leads to; `blanks` are the empty pieces behind the name. -/
structure Names (d : Disk) (p : Path) (parent : List String) (last : List Char)
    (blanks : List (List Char)) : Prop where
  pieces : ∃ before, d.pieces p = .ok (before ++ last :: blanks) ∧
    follow d.tree [] before = .ok parent
  isName : IsName last
  areBlank : ∀ piece ∈ blanks, piece = []
  parent : d.tree.entryAt parent = some .dir

theorem names_of_target {d : Disk} {p : Path} {parent : List String} {name : String}
    {slash : Bool} (h : d.target p = .ok (.entry parent name slash)) :
    ∃ last blanks, d.Names p parent last blanks ∧ name = String.ofList last ∧
      slash = !blanks.isEmpty := by
  obtain ⟨ps, hps, -⟩ := bind_eq_ok_iff.1 h
  rcases blanks_or_last ps with hblanks | ⟨before, last, blanks, rfl, hlast, hblanks⟩
  · rw [target_of_blanks hps hblanks] at h
    cases h
  · rw [target_of_last hps hlast hblanks, bind_eq_ok_iff] at h
    obtain ⟨found, hfollow, h⟩ := h
    -- Dots name no entry, and neither does a piece without a directory around it.
    split at h
    · cases h
    · rename_i hdots
      have hname : IsName last := by
        simp only [Bool.or_eq_true, decide_eq_true_eq, not_or] at hdots
        exact ⟨hlast, hdots.1, hdots.2⟩
      split at h
      · rename_i entries hparent
        cases h
        exact ⟨last, blanks, ⟨⟨before, hps, hfollow⟩, hname, hblanks,
          FileTree.entryAt_eq_dir_iff.2 ⟨entries, hparent⟩⟩, rfl, rfl⟩
      · cases h
      · cases h

theorem Names.of_within {d whole : Disk} {p : Path} {parent : List String} {last : List Char}
    {blanks : List (List Char)} (h : d.Names p parent last blanks) (hcwd : whole.cwd = d.cwd)
    (hwithin : Within d.tree whole.tree) : whole.Names p parent last blanks := by
  obtain ⟨before, hps, hfollow⟩ := h.pieces
  exact ⟨⟨before, (pieces_of_cwd hcwd p).trans hps, follow_of_within hwithin hfollow⟩,
    h.isName, h.areBlank, hwithin.dir h.parent⟩

/-- A path leads to the entry that it names, if there is one. -/
theorem Names.locate {d : Disk} {p : Path} {parent : List String} {last : List Char}
    {blanks : List (List Char)} (h : d.Names p parent last blanks)
    (hcheck : checkName (String.ofList last) = .ok (String.ofList last))
    (hentry : (d.tree.entryAt (parent ++ [String.ofList last])).isSome = true)
    (hdir : blanks ≠ [] → d.tree.entryAt (parent ++ [String.ofList last]) = some .dir) :
    d.locate p = .ok (parent ++ [String.ofList last]) := by
  obtain ⟨before, hps, hbefore⟩ := h.pieces
  have hlast : follow d.tree parent [last] = .ok (parent ++ [String.ofList last]) :=
    follow_single_eq_ok_iff.2 ⟨h.parent, .enter h.isName hcheck hentry⟩
  rw [Disk.locate, bind_eq_ok_iff]
  refine ⟨_, hps, ?_⟩
  rw [follow_append, bind_eq_ok_iff]
  refine ⟨parent, hbefore, ?_⟩
  rw [follow_cons, bind_eq_ok_iff]
  exact ⟨_, hlast, follow_blanks h.areBlank hdir⟩

/-! ## One change -/

/-- The second disk has something new at one place, to which a path leads, and is else like the
first one. -/
structure Puts (d : Disk) (p : Path) (place : List String) (what : Entry) (d' : Disk) : Prop where
  cwd : d'.cwd = d.cwd
  free : d.tree.entryAt place ≠ some .dir
  entry (q : List String) : d'.tree.entryAt q = if q = place then some what else d.tree.entryAt q
  located : d'.locate p = .ok place

theorem Puts.within {d d' : Disk} {p : Path} {place : List String} {what : Entry}
    (h : d.Puts p place what d') : Within d.tree d'.tree := FileTree.within_of_entry h.free h.entry

/-- A node that is put at the end of a path is found there. -/
theorem Names.puts {d : Disk} {p : Path} {parent : List String} {last : List Char}
    {blanks : List (List Char)} (h : d.Names p parent last blanks)
    (hcheck : checkName (String.ofList last) = .ok (String.ofList last))
    (hfree : d.tree.entryAt (parent ++ [String.ofList last]) ≠ some .dir) {node : FileTree}
    (hbare : node.Bare) (hdir : blanks ≠ [] → node.entry = .dir) :
    d.Puts p (parent ++ [String.ofList last]) node.entry
      (d.put (parent ++ [String.ofList last]) node) := by
  have hentry (q : List String) : (d.put (parent ++ [String.ofList last]) node).tree.entryAt q =
      if q = parent ++ [String.ofList last] then some node.entry else d.tree.entryAt q :=
    FileTree.entryAt_set h.parent hfree hbare q
  have hwithin := FileTree.within_of_entry hfree hentry
  refine ⟨rfl, hfree, hentry, ?_⟩
  have hself := hentry (parent ++ [String.ofList last])
  rw [if_pos rfl] at hself
  have hnames : (d.put (parent ++ [String.ofList last]) node).Names p parent last blanks :=
    h.of_within rfl hwithin
  refine hnames.locate hcheck (by rw [hself]; rfl) fun hne => ?_
  rw [hself, hdir hne]

/-- Writing changes one file. -/
theorem puts_of_write {d d' : Disk} {p : Path} {text : String} (h : d.write p text = .ok d') :
    ∃ parent last, d.Names p parent last [] ∧
      d.Puts p (parent ++ [String.ofList last]) (.file text) d' := by
  rw [write, bind_eq_ok_iff] at h
  obtain ⟨target, htarget, h⟩ := h
  cases target with
  | fixed => cases h
  | entry parent name slash =>
    obtain ⟨last, blanks, hnames, rfl, rfl⟩ := names_of_target htarget
    simp only at h
    -- A slash behind the name asks for a directory, which no writing makes.
    split at h
    · cases h
    · rename_i hslash
      obtain rfl : blanks = [] := by simpa using hslash
      obtain ⟨name, hcheck, h⟩ := bind_eq_ok_iff.1 h
      obtain rfl := checkName_eq_ok hcheck
      -- Only a directory in the place keeps the file from being written.
      split at h
      · cases h
      · rename_i hfree
        cases h
        refine ⟨parent, last, hnames, hnames.puts hcheck ?_ (FileTree.bare_file text) (by simp)⟩
        intro hdir
        obtain ⟨entries, hentries⟩ := FileTree.entryAt_eq_dir_iff.1 hdir
        exact hfree entries hentries

/-- Making a directory adds it where nothing stood. -/
theorem puts_of_makeDir {d d' : Disk} {p : Path} (h : d.makeDir p = .ok d') :
    ∃ place, d.tree.entryAt place = none ∧ d.Puts p place .dir d' := by
  rw [makeDir, bind_eq_ok_iff] at h
  obtain ⟨target, htarget, h⟩ := h
  cases target with
  | fixed => cases h
  | entry parent name slash =>
    obtain ⟨last, blanks, hnames, rfl, rfl⟩ := names_of_target htarget
    obtain ⟨name, hcheck, h⟩ := bind_eq_ok_iff.1 h
    obtain rfl := checkName_eq_ok hcheck
    split at h
    · cases h
    · rename_i hnone
      cases h
      have hentry : d.tree.entryAt (parent ++ [String.ofList last]) = none := by
        simp [FileTree.entryAt, hnone]
      exact ⟨_, hentry, hnames.puts hcheck (by simp [hentry]) FileTree.bare_empty fun _ => rfl⟩

/-- The text of a file is read at any path that leads to it. -/
theorem read_of_entryAt {d : Disk} {p : Path} {place : List String} {text : String}
    (hlocate : d.locate p = .ok place) (hentry : d.tree.entryAt place = some (.file text)) :
    d.read p = .ok text := by
  have hfile : d.fileAt p = .ok (place, text) :=
    fileAt_eq_ok_iff.2 ⟨hlocate, FileTree.entryAt_eq_file_iff.1 hentry⟩
  rw [read, hfile]
  rfl

/-! ## Directories that are there -/

theorem isDir_iff {d : Disk} {p : Path} :
    d.isDir p = true ↔ ∃ place, d.locate p = .ok place ∧ d.tree.entryAt place = some .dir := by
  rw [isDir, node?]
  cases d.locate p with
  | error e => simp [Except.toOption]
  | ok place =>
    simp only [Except.toOption, Except.ok.injEq, exists_eq_left', FileTree.entryAt,
      Option.bind_eq_bind, Option.bind_some]
    cases d.tree.get? place with
    | none => simp
    | some node => cases node <;> simp [FileTree.isDir, FileTree.entry]

theorem exists?_of_isDir {d : Disk} {p : Path} (h : d.isDir p = true) : d.exists? p = true := by
  rw [isDir] at h
  rw [exists?]
  cases hnode : d.node? p with
  | none => simp [hnode] at h
  | some node => rfl

/-- A directory that is there cannot be made. -/
theorem makeDir_of_isDir {d : Disk} {p : Path} (h : d.isDir p = true) :
    d.makeDir p = .error .exists := by
  obtain ⟨place, hlocate, -⟩ := isDir_iff.1 h
  obtain ⟨ps, hps, hfollow⟩ := bind_eq_ok_iff.1 hlocate
  -- The path is the root, or its last piece leads somewhere: to an entry, or by dots.
  rcases blanks_or_last ps with hblanks | ⟨before, last, blanks, rfl, hlast, hblanks⟩
  · rw [makeDir, target_of_blanks hps hblanks]
    rfl
  · rw [follow_append, bind_eq_ok_iff] at hfollow
    obtain ⟨parent, hparent, hfollow⟩ := hfollow
    rw [follow_cons, bind_eq_ok_iff] at hfollow
    obtain ⟨next, hnext, -⟩ := hfollow
    obtain ⟨hdir, hleads⟩ := follow_single_eq_ok_iff.1 hnext
    obtain ⟨entries, hentries⟩ := FileTree.entryAt_eq_dir_iff.1 hdir
    rw [makeDir, target_of_last hps hlast hblanks, hparent]
    cases hleads with
    | stay hmute =>
      have hhere : last = ['.'] := hmute.resolve_left hlast
      simp [hhere, bind, Except.bind]
    | up hup => simp [hup, bind, Except.bind]
    | enter hname hcheck hentry =>
      obtain ⟨node, hnode⟩ := Option.isSome_iff_exists.1 (by simpa [FileTree.entryAt] using hentry)
      simp [hname.notHere, hname.notUp, hentries, hcheck, hnode, bind, Except.bind]

/-- Nothing has to be made for a directory that is there. -/
theorem makeDirs_of_isDir {d : Disk} {p : Path} (h : d.isDir p = true) :
    d.makeDirs p = (d, .ok ()) := by
  obtain ⟨above, habove⟩ : ∃ above, p.ancestors = p :: above := by
    rw [Path.ancestors, Path.ancestorsWithin]
    cases p.parent? with
    | none => exact ⟨[], rfl⟩
    | some above => exact ⟨_, rfl⟩
  rw [makeDirs, habove, makeDirsAlong, makeDir_of_isDir h]
  split
  · rfl
  · rfl

/-! ## Files in one directory -/

/-- A name that can stand in a directory. -/
structure IsFileName (name : String) : Prop where
  isName : IsName name.toList
  noSlash : '/' ∉ name.toList
  noNul : '\u0000' ∉ name.toList
  short : name.utf8ByteSize ≤ longestName

theorem IsFileName.checkName {name : String} (h : IsFileName name) :
    checkName name = .ok name := by
  rw [Disk.checkName, if_neg (Nat.not_lt.2 h.short)]

theorem pieces_eq_ok_iff {d : Disk} {p : Path} {ps : List (List Char)} :
    d.pieces p = .ok ps ↔ p.text ≠ "" ∧ '\u0000' ∉ p.text.toList ∧
      p.text.utf8ByteSize ≤ longestPath ∧ (d.cwd.join p).pieces = ps := by
  rw [pieces]
  by_cases hempty : p.text = ""
  · simp [hempty]
  · by_cases hnul : '\u0000' ∈ p.text.toList
    · simp [hempty, hasChar, hnul]
    · by_cases hlong : longestPath < p.text.utf8ByteSize
      · simp [hempty, hasChar, hnul, hlong]
      · simp [hempty, hasChar, hnul, hlong, Nat.not_lt.1 hlong]

/-- The paths of all files in one directory are followed alike up to the names. -/
theorem exists_pieces_file (d : Disk) (dir : Path) : ∃ before, ∀ name : String,
    '/' ∉ name.toList → (d.cwd.join (dir.join ⟨name⟩)).pieces = before ++ [name.toList] := by
  obtain ⟨front, hfront⟩ := d.cwd.exists_pieces_join
  obtain ⟨back, hback⟩ := dir.exists_pieces_join
  by_cases hdir : dir.isAbsolute = true
  · refine ⟨back, fun name hname => ?_⟩
    have hname' := Path.isAbsolute_name hname
    have habs := (Path.isAbsolute_join hname' dir).trans hdir
    have hjoin : d.cwd.join (dir.join ⟨name⟩) = dir.join ⟨name⟩ := by rw [Path.join, if_pos habs]
    rw [hjoin, hback _ hname', Path.pieces_name hname]
  · refine ⟨front ++ back, fun name hname => ?_⟩
    have hname' := Path.isAbsolute_name hname
    have hrel := (Path.isAbsolute_join hname' dir).trans (Bool.eq_false_iff.2 hdir)
    rw [hfront _ hrel, hback _ hname', Path.pieces_name hname, List.append_assoc]

/-- The last piece of a file's path is the name of the file. -/
theorem Names.last_eq {d : Disk} {dir : Path} {name : String} {parent : List String}
    {last : List Char} (h : d.Names (dir.join ⟨name⟩) parent last [])
    (hname : '/' ∉ name.toList) : last = name.toList := by
  obtain ⟨before, hbefore⟩ := d.exists_pieces_file dir
  obtain ⟨ps, hps, -⟩ := h.pieces
  obtain ⟨-, -, -, heq⟩ := pieces_eq_ok_iff.1 hps
  rw [hbefore name hname] at heq
  exact (List.singleton_inj.1 (List.append_inj_right' heq rfl)).symm

/-- Where the path of a file leads, that of a file with a shorter name beside it leads too. -/
theorem Names.beside {d : Disk} {dir : Path} {name other : String} {parent : List String}
    (h : d.Names (dir.join ⟨name⟩) parent name.toList []) (hname : '/' ∉ name.toList)
    (hother : IsFileName other) (hsize : other.utf8ByteSize ≤ name.utf8ByteSize) :
    d.Names (dir.join ⟨other⟩) parent other.toList [] := by
  obtain ⟨before, hbefore⟩ := d.exists_pieces_file dir
  obtain ⟨base, hbase⟩ := dir.exists_text_join
  obtain ⟨front, hps, hfollow⟩ := h.pieces
  obtain ⟨-, hnul, hlong, heq⟩ := pieces_eq_ok_iff.1 hps
  rw [hbase _ (Path.isAbsolute_name hname)] at hnul hlong
  -- Both paths have the same pieces in front of the name.
  obtain rfl : before = front := by
    rw [hbefore name hname] at heq
    exact List.append_inj_left' heq rfl
  refine ⟨⟨before, ?_, hfollow⟩, hother.isName, by simp, h.parent⟩
  rw [pieces_eq_ok_iff, hbase _ (Path.isAbsolute_name hother.noSlash)]
  -- What a path must not have or be is no worse with the shorter name.
  refine ⟨?_, ?_, ?_, hbefore other hother.noSlash⟩
  · intro hempty
    have hboth : base = "" ∧ other = "" := by simpa using hempty
    exact hother.isName.nonempty (String.toList_eq_nil_iff.2 hboth.2)
  · rw [String.toList_append, List.mem_append, not_or] at hnul ⊢
    exact ⟨hnul.1, hother.noNul⟩
  · rw [String.utf8ByteSize_append] at hlong ⊢
    exact (Nat.add_le_add_left hsize _).trans hlong

/-- Only a directory is in the way of writing a file into a directory. -/
theorem write_of_names {d : Disk} {p : Path} {parent : List String} {name : String}
    (h : d.Names p parent name.toList []) (hcheck : checkName name = .ok name) (text : String) :
    d.write p text =
      if d.tree.entryAt (parent ++ [name]) = some .dir then .error .isDirectory
      else .ok (d.put (parent ++ [name]) (.file text)) := by
  obtain ⟨before, hps, hfollow⟩ := h.pieces
  obtain ⟨entries, hentries⟩ := FileTree.entryAt_eq_dir_iff.1 h.parent
  have htarget : d.target p = .ok (.entry parent name false) := by
    rw [target_of_last hps h.isName.nonempty h.areBlank, hfollow]
    simp [bind, Except.bind, h.isName.notHere, h.isName.notUp, hentries]
  rw [write, htarget]
  simp only [bind, Except.bind, Bool.false_eq_true, if_false, hcheck]
  cases hnode : d.tree.get? (parent ++ [name]) with
  | none => simp [FileTree.entryAt, hnode]
  | some node => cases node <;> simp [FileTree.entryAt, FileTree.entry, hnode]

/-- A file of a directory stands at its name, with a text. -/
def Holds (d : Disk) (dir : Path) (name text : String) : Prop :=
  ∃ parent, d.locate (dir.join ⟨name⟩) = .ok (parent ++ [name]) ∧
    d.tree.entryAt (parent ++ [name]) = some (.file text)

theorem Holds.read {d : Disk} {dir : Path} {name text : String} (h : d.Holds dir name text) :
    d.read (dir.join ⟨name⟩) = .ok text := by
  obtain ⟨parent, hlocate, hentry⟩ := h
  exact read_of_entryAt hlocate hentry

/-- What is written into a directory is there. -/
theorem holds_of_write {d d' : Disk} {dir : Path} {name text : String}
    (hname : '/' ∉ name.toList) (h : d.write (dir.join ⟨name⟩) text = .ok d') :
    d'.Holds dir name text := by
  obtain ⟨parent, last, hnames, hputs⟩ := puts_of_write h
  obtain rfl := hnames.last_eq hname
  rw [String.ofList_toList] at hputs
  exact ⟨parent, hputs.located, by rw [hputs.entry, if_pos rfl]⟩

/-- Files stay as they are when one with another name is written. -/
theorem Holds.of_write {d d' : Disk} {dir dir' : Path} {name text other text' : String}
    (h : d.Holds dir name text) (hother : '/' ∉ other.toList) (hne : name ≠ other)
    (hwrite : d.write (dir'.join ⟨other⟩) text' = .ok d') : d'.Holds dir name text := by
  obtain ⟨parent, last, hnames, hputs⟩ := puts_of_write hwrite
  obtain rfl := hnames.last_eq hother
  rw [String.ofList_toList] at hputs
  obtain ⟨place, hlocate, hentry⟩ := h
  refine ⟨place, locate_of_within hputs.cwd hputs.within hlocate, ?_⟩
  -- Wherever the two directories are, the last names tell the places apart.
  have hplace : place ++ [name] ≠ parent ++ [other] := by
    intro heq
    exact hne (List.singleton_inj.1 (List.append_inj_right' heq rfl))
  rw [hputs.entry, if_neg hplace, hentry]

/-! ## Many changes -/

/-- The second disk is the first one with additions. -/
structure Changes (dirs files : List Path) (d d' : Disk) : Prop where
  cwd : d'.cwd = d.cwd
  /-- A place is as before, or it has a new directory that one of `dirs` names, or a file that one
  of `files` names. -/
  places (place : List String) : d'.tree.entryAt place = d.tree.entryAt place ∨
    (d.tree.entryAt place = none ∧ d'.tree.entryAt place = some .dir ∧
      ∃ dir ∈ dirs, d'.locate dir = .ok place) ∨
    (d.tree.entryAt place ≠ some .dir ∧ (∃ text, d'.tree.entryAt place = some (.file text)) ∧
      ∃ file ∈ files, d'.locate file = .ok place)

namespace Changes

variable {dirs files : List Path} {d d' d'' : Disk}

theorem refl (dirs files : List Path) (d : Disk) : Changes dirs files d d :=
  ⟨rfl, fun _ => .inl rfl⟩

theorem within (h : Changes dirs files d d') : Within d.tree d'.tree := by
  constructor
  · intro place hdir
    rcases h.places place with hsame | ⟨hnone, -, -⟩ | ⟨hfree, -, -⟩
    · rw [hsame, hdir]
    · rw [hdir] at hnone
      cases hnone
    · exact absurd hdir hfree
  · intro place hsome
    rcases h.places place with hsame | ⟨-, hdir, -⟩ | ⟨-, ⟨text, hfile⟩, -⟩
    · rw [hsame, hsome]
    · rw [hdir]
      rfl
    · rw [hfile]
      rfl

/-- More may change than does. -/
theorem mono {dirs' files' : List Path} (h : Changes dirs files d d') (hdirs : dirs ⊆ dirs')
    (hfiles : files ⊆ files') : Changes dirs' files' d d' := by
  refine ⟨h.cwd, fun place => ?_⟩
  rcases h.places place with hsame | ⟨hnone, hdir, dir, hmem, hlocate⟩ |
    ⟨hfree, hfile, file, hmem, hlocate⟩
  · exact .inl hsame
  · exact .inr (.inl ⟨hnone, hdir, dir, hdirs hmem, hlocate⟩)
  · exact .inr (.inr ⟨hfree, hfile, file, hfiles hmem, hlocate⟩)

/-- Changes add up: what a path named after the first ones it names after the second ones. -/
theorem trans (h : Changes dirs files d d') (h' : Changes dirs files d' d'') :
    Changes dirs files d d'' := by
  have hlocate {p : Path} {place : List String} :
      d'.locate p = .ok place → d''.locate p = .ok place := locate_of_within h'.cwd h'.within
  refine ⟨h'.cwd.trans h.cwd, fun place => ?_⟩
  -- The cases are those of the later changes; a place that they leave is as the first ones left it.
  rcases h'.places place with hsame | ⟨hnone, hdir, hnamed⟩ | ⟨hfree, hfile, hnamed⟩
  · rw [hsame]
    rcases h.places place with hsame | ⟨hnone, hdir, dir, hmem, hdirAt⟩ |
      ⟨hfree, hfile, file, hmem, hfileAt⟩
    · exact .inl hsame
    · exact .inr (.inl ⟨hnone, hdir, dir, hmem, hlocate hdirAt⟩)
    · exact .inr (.inr ⟨hfree, hfile, file, hmem, hlocate hfileAt⟩)
  · refine .inr (.inl ⟨?_, hdir, hnamed⟩)
    -- Nothing was taken away in between, so the place was free on the first disk too.
    by_contra hsome
    have hkept := h.within.isSome (Option.isSome_iff_ne_none.2 hsome)
    rw [hnone] at hkept
    cases hkept
  · exact .inr (.inr ⟨fun hdir => hfree (h.within.dir hdir), hfile, hnamed⟩)

end Changes

theorem Puts.changes_dir {d d' : Disk} {p : Path} {place : List String}
    (h : d.Puts p place .dir d') (hnone : d.tree.entryAt place = none) :
    Changes [p] [] d d' := by
  refine ⟨h.cwd, fun q => ?_⟩
  by_cases hq : q = place
  · subst hq
    exact .inr (.inl ⟨hnone, by rw [h.entry, if_pos rfl], p, List.mem_singleton_self p, h.located⟩)
  · exact .inl (by rw [h.entry, if_neg hq])

theorem Puts.changes_file {d d' : Disk} {p : Path} {place : List String} {text : String}
    (h : d.Puts p place (.file text) d') : Changes [] [p] d d' := by
  refine ⟨h.cwd, fun q => ?_⟩
  by_cases hq : q = place
  · subst hq
    exact .inr (.inr ⟨h.free, ⟨text, by rw [h.entry, if_pos rfl]⟩, p, List.mem_singleton_self p,
      h.located⟩)
  · exact .inl (by rw [h.entry, if_neg hq])

/-- One directory is made, and nothing else changes. -/
theorem changes_of_makeDir {d d' : Disk} {p : Path} (h : d.makeDir p = .ok d') :
    Changes [p] [] d d' := by
  obtain ⟨place, hnone, hputs⟩ := puts_of_makeDir h
  exact hputs.changes_dir hnone

/-- One file is written, and nothing else changes. -/
theorem changes_of_write {d d' : Disk} {p : Path} {text : String}
    (h : d.write p text = .ok d') : Changes [] [p] d d' := by
  obtain ⟨parent, last, -, hputs⟩ := puts_of_write h
  exact hputs.changes_file

/-- Making directories adds no others than those of the list, whether it fails or not. -/
theorem changes_makeDirsAlong (d : Disk) (paths : List Path) :
    Changes paths [] d (d.makeDirsAlong paths).1 := by
  induction paths with
  | nil => exact .refl _ _ d
  | cons p above ih =>
    have hlast {d₁ d₂ : Disk} (h : d₁.makeDir p = .ok d₂) : Changes (p :: above) [] d₁ d₂ :=
      (changes_of_makeDir h).mono (by simp) (by simp)
    rw [makeDirsAlong]
    split
    · exact .refl _ _ d
    · split
      · rename_i d' hmade
        exact hlast hmade
      · -- The directories above come first, then the last one is tried again.
        have habove := ih.mono (List.subset_cons_self p above) (List.Subset.refl [])
        split
        · rename_i d' e hfailed
          rw [hfailed] at habove
          exact habove
        · rename_i d' hdone
          rw [hdone] at habove
          split
          · rename_i d'' hmade
            exact habove.trans (hlast hmade)
          · exact habove
      · exact .refl _ _ d

/-- The directories that are made for a path, when it is no directory yet. -/
def missingDirs (d : Disk) (p : Path) : List Path := if d.isDir p then [] else p.ancestors

theorem changes_makeDirs (d : Disk) (p : Path) :
    Changes (d.missingDirs p) [] d (d.makeDirs p).1 := by
  rw [missingDirs]
  split
  · rename_i hdir
    rw [makeDirs_of_isDir hdir]
    exact .refl _ _ d
  · exact changes_makeDirsAlong d p.ancestors

end Disk

end DocSite
