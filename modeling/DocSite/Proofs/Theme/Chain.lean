import DocSite.Proofs.Loading
import Mathlib

/-!
# Chains of themes

  A theme file may extend another one, which may extend a third. The texts of the
  paths can grow at every step, but each step leads to a place of the disk, and
  loading stops at the first place that it has seen before. So every chain stops,
  in one of three ways: at a theme without a base, at a file that the chain has
  visited, or at a file that gives no theme.

  What loading ends in follows from how the chain stops. Each layer above does the
  same to the result below it: it names itself in a failure, or merges itself on
  the theme.
-/

namespace DocSite.Theme

/-! ## Layers -/

/-- A theme file, and the theme that is written in it. -/
structure Layer where
  file : Path
  written : Theme

namespace Layer

/-- The theme of a layer, as it stands in its file. -/
def theme (l : Layer) : Theme := l.written.atFile l.file

/-- The file that a layer extends, seen from its own directory. -/
def base? (l : Layer) : Option Path :=
  l.written.baseFile.map fun base => (directory l.file).join base

/-- The stylesheet that a layer declares, seen from its own directory. -/
def stylesheet? (l : Layer) : Option Path :=
  l.written.stylesheet.map fun css =>
    if css.isAbsolute then css else (directory l.file).join css

/-- The file can be read, and its text is the theme without unknown keys. -/
def StandsOn (l : Layer) (disk : Disk) : Prop :=
  ∃ text, disk.read l.file = .ok text ∧
    Theme.parse text = .ok { theme := l.written, unknownKeys := [] }

end Layer

/-- Why a file gives no theme. -/
inductive Refused (disk : Disk) (file : Path) : Failure → Prop where
  | unreadable {e : OsError} (hread : disk.read file = .error e) :
      Refused disk file (.unreadable file e)
  | unparsable {text : String} {e : Toml.DocumentError} (hread : disk.read file = .ok text)
      (hparse : Theme.parse text = .error e) : Refused disk file (.unparsable file e)
  | unknownKeys {text : String} {reading : ThemeReading} (hread : disk.read file = .ok text)
      (hparse : Theme.parse text = .ok reading) (hkeys : reading.unknownKeys ≠ []) :
      Refused disk file .unknownThemeKeys

/-! ## Chains -/

/-- A file leads down to another one through layers, each of which extends the next. -/
inductive Leads (disk : Disk) : Path → List Layer → Path → Prop where
  | here (file : Path) : Leads disk file [] file
  | down {l : Layer} {base last : Path} {layers : List Layer} (hl : l.StandsOn disk)
      (hbase : l.base? = some base) (hleads : Leads disk base layers last) :
      Leads disk l.file (l :: layers) last

/-- The layers are different files. -/
def Apart (disk : Disk) (layers : List Layer) : Prop :=
  layers.Pairwise fun l m => disk.locate l.file ≠ disk.locate m.file

/-- A path leads to the file of one of the layers. -/
def Revisits (disk : Disk) (layers : List Layer) (file : Path) : Prop :=
  ∃ l ∈ layers, disk.locate file = disk.locate l.file

/-- The failure below layers, with the name of each of them in front of it. -/
def inBases (layers : List Layer) (failure : Failure) : Failure :=
  layers.foldr (fun l cause => .inBaseOf l.file cause) failure

/-- The deepest layer with the layers above it merged on it, from the lowest up. -/
def mergeUp (deepest : Layer) (layers : List Layer) : Except Diagnostics Theme :=
  layers.reverse.foldlM (fun lower l => lower.merge l.theme) deepest.theme

/-! ## Files and places -/

theorem fileAt_of_read {disk : Disk} {file : Path} {text : String}
    (h : disk.read file = .ok text) : ∃ place, disk.fileAt file = .ok (place, text) := by
  rw [Disk.read] at h
  cases hfile : disk.fileAt file with
  | error e => simp [hfile, Except.map] at h
  | ok found =>
    obtain ⟨place, found⟩ := found
    obtain rfl : found = text := by simpa [hfile, Except.map] using h
    exact ⟨place, rfl⟩

theorem fileAt_of_read_error {disk : Disk} {file : Path} {e : OsError}
    (h : disk.read file = .error e) : disk.fileAt file = .error e := by
  rw [Disk.read] at h
  cases hfile : disk.fileAt file with
  | error e' =>
    obtain rfl : e' = e := by simpa [hfile, Except.map] using h
    rfl
  | ok found => simp [hfile, Except.map] at h

/-- A layer stands at some place, and its text is there. -/
theorem Layer.StandsOn.fileAt {l : Layer} {disk : Disk} (h : l.StandsOn disk) :
    ∃ place text, disk.fileAt l.file = .ok (place, text) ∧ disk.locate l.file = .ok place ∧
      Theme.parse text = .ok { theme := l.written, unknownKeys := [] } := by
  obtain ⟨text, hread, hparse⟩ := h
  obtain ⟨place, hfile⟩ := fileAt_of_read hread
  exact ⟨place, text, hfile, (Disk.fileAt_eq_ok_iff.1 hfile).1, hparse⟩

theorem Leads.standsOn {disk : Disk} {file last : Path} {layers : List Layer}
    (h : Leads disk file layers last) : ∀ l ∈ layers, l.StandsOn disk := by
  induction h with
  | here => simp
  | down hl _ _ ih => exact List.forall_mem_cons.2 ⟨hl, ih⟩

/-! ## One step -/

/-- What a layer makes of the result below it: it names itself in a failure, and merges itself on
a theme. -/
def onBase (l : Layer) (lower : Except Failure Theme) : Except Failure Theme :=
  match lower with
  | .error cause => .error (.inBaseOf l.file cause)
  | .ok t => (t.merge l.theme).mapError .rejected

section step
variable {disk : Disk} {verbose : Bool} {visited : List (List String)} {file : Path}
  {place : List String} {text : String}

theorem loadChain_of_error {e : OsError} (hfile : disk.fileAt file = .error e) :
    loadChain disk verbose visited file = throw (.unreadable file e) := by
  rw [loadChain]
  split
  · rename_i e' he'
    rw [hfile] at he'
    rw [Except.error.inj he']
  · rename_i place text hok
    simp [hfile] at hok

theorem loadChain_of_fileAt (hfile : disk.fileAt file = .ok (place, text)) :
    loadChain disk verbose visited file =
      if visited.contains place then throw (.selfExtending file)
      else
        readLayer file text >>= fun t =>
          match t.baseFile.map fun base => (directory file).join base with
          | none => pure t
          | some base =>
            logDetail verbose "theme" (file.text ++ " extends " ++ base.text) >>= fun _ =>
              inContext (.inBaseOf file) (loadChain disk verbose (place :: visited) base) >>=
                fun lower => layered lower t := by
  rw [loadChain]
  split
  · rename_i e he
    simp [hfile] at he
  · rename_i place' text' hok
    rw [hfile] at hok
    obtain ⟨rfl, rfl⟩ := Prod.mk.inj (Except.ok.inj hok)
    rfl

theorem ends_of_visited (hfile : disk.fileAt file = .ok (place, text)) (hold : place ∈ visited) :
    Ends (loadChain disk verbose visited file) (.error (.selfExtending file)) := by
  rw [loadChain_of_fileAt hfile, if_pos (by simpa using hold)]
  exact ends_throw _

theorem ends_readLayer {written : Theme}
    (hparse : Theme.parse text = .ok { theme := written, unknownKeys := [] }) :
    Ends (readLayer file text) (.ok (written.atFile file)) := by
  rw [readLayer, hparse]
  exact (ends_refuseUnknown_nil file .unknownThemeKeys).bind_ok (ends_pure _)

theorem ends_layered (lower t : Theme) :
    Ends (layered lower t) ((lower.merge t).mapError .rejected) := by
  unfold layered
  cases lower.merge t with
  | ok merged => exact ends_pure merged
  | error found => exact ends_throw _

/-- A new layer without a base is the theme itself. -/
theorem ends_of_root {l : Layer} (hl : l.StandsOn disk) (hbase : l.base? = none)
    (hnew : ∀ place, disk.locate l.file = .ok place → place ∉ visited) :
    Ends (loadChain disk verbose visited l.file) (.ok l.theme) := by
  obtain ⟨place, text, hfile, hplace, hparse⟩ := hl.fileAt
  rw [loadChain_of_fileAt hfile, if_neg (by simpa using hnew place hplace)]
  refine (ends_readLayer hparse).bind_ok ?_
  have hnone : ((l.written.atFile l.file).baseFile.map fun base => (directory l.file).join base) =
      none := hbase
  rw [hnone]
  exact ends_pure _

/-- A new layer with a base works on what loading the base ends in. -/
theorem ends_of_base {l : Layer} {base : Path} {r : Except Failure Theme} (hl : l.StandsOn disk)
    (hbase : l.base? = some base) (hplace : disk.locate l.file = .ok place)
    (hnew : place ∉ visited) (hlower : Ends (loadChain disk verbose (place :: visited) base) r) :
    Ends (loadChain disk verbose visited l.file) (onBase l r) := by
  obtain ⟨place', text, hfile, hplace', hparse⟩ := hl.fileAt
  obtain rfl : place' = place := Except.ok.inj (hplace'.symm.trans hplace)
  rw [loadChain_of_fileAt hfile, if_neg (by simpa using hnew)]
  refine (ends_readLayer hparse).bind_ok ?_
  have hsome : ((l.written.atFile l.file).baseFile.map fun base => (directory l.file).join base) =
      some base := hbase
  rw [hsome]
  refine (ends_logDetail _ _ _).bind_ok ?_
  have hcontext := hlower.inContext (.inBaseOf l.file)
  cases r with
  | error cause => exact hcontext.bind_error
  | ok lower => exact hcontext.bind_ok (ends_layered lower l.theme)

/-- A new file that gives no theme is the failure itself. -/
theorem ends_of_refused {failure : Failure} (hrefused : Refused disk file failure)
    (hnew : ∀ place, disk.locate file = .ok place → place ∉ visited) :
    Ends (loadChain disk verbose visited file) (.error failure) := by
  cases hrefused with
  | unreadable hread =>
    rw [loadChain_of_error (fileAt_of_read_error hread)]
    exact ends_throw _
  | unparsable hread hparse =>
    obtain ⟨place, hfile⟩ := fileAt_of_read hread
    have hplace := (Disk.fileAt_eq_ok_iff.1 hfile).1
    rw [loadChain_of_fileAt hfile, if_neg (by simpa using hnew place hplace), readLayer, hparse]
    exact (ends_throw _).bind_error
  | unknownKeys hread hparse hkeys =>
    obtain ⟨place, hfile⟩ := fileAt_of_read hread
    have hplace := (Disk.fileAt_eq_ok_iff.1 hfile).1
    rw [loadChain_of_fileAt hfile, if_neg (by simpa using hnew place hplace), readLayer, hparse]
    exact (ends_refuseUnknown hkeys _ _).bind_error.bind_error

end step

/-! ## Whole chains -/

theorem stylesheet_of_merge {base overlay merged : Theme} (h : base.merge overlay = .ok merged) :
    merged.stylesheet = overlay.stylesheet.orElse fun _ => base.stylesheet := by
  unfold merge at h
  simp only at h
  split at h
  · cases h
    rfl
  · simp at h

/-- No layer is at a visited place. -/
def NewTo (disk : Disk) (visited : List (List String)) (layers : List Layer) : Prop :=
  ∀ l ∈ layers, ∀ place, disk.locate l.file = .ok place → place ∉ visited

/-- Loading goes down through the layers of a chain and does to the result at its end what each
of them does, the lowest first. -/
theorem ends_of_leads {disk : Disk} {verbose : Bool} {file last : Path} {layers : List Layer}
    {r : Except Failure Theme} (h : Leads disk file layers last) :
    ∀ visited, NewTo disk visited layers → Apart disk layers →
      (∀ visited', (∀ place, place ∈ visited' ↔
          place ∈ visited ∨ ∃ l ∈ layers, disk.locate l.file = .ok place) →
        Ends (loadChain disk verbose visited' last) r) →
      Ends (loadChain disk verbose visited file) (layers.foldr onBase r) := by
  -- By induction on the chain: what is visited grows by the layers that were gone through.
  induction h with
  | here file =>
    intro visited _ _ hlast
    exact hlast visited (by simp)
  | @down l base last layers hl hbase _ ih =>
    intro visited hnew hapart hlast
    obtain ⟨place, text, hfile, hplace, -⟩ := hl.fileAt
    obtain ⟨hfirst, hrest⟩ := List.pairwise_cons.1 hapart
    refine ends_of_base hl hbase hplace (hnew l (by simp) place hplace) ?_
    refine ih (place :: visited) ?_ hrest ?_
    · -- The layers below differ from this one, so they stay new.
      intro m hm place' hplace' hmem
      rcases List.mem_cons.1 hmem with rfl | hmem
      · exact hfirst m hm (hplace.trans hplace'.symm)
      · exact hnew m (by simp [hm]) place' hplace' hmem
    · intro visited' hvisited'
      refine hlast visited' fun place' => ?_
      simp only [hvisited', List.mem_cons, exists_eq_or_imp, hplace, Except.ok.injEq]
      rw [eq_comm, or_left_comm, or_assoc]

/-- A failure goes up with the name of every layer on its way. -/
theorem foldr_onBase_error (layers : List Layer) (failure : Failure) :
    layers.foldr onBase (.error failure) = .error (inBases layers failure) := by
  induction layers with
  | nil => rfl
  | cons l layers ih =>
    rw [List.foldr_cons, ih]
    rfl

theorem mergeUp_nil (deepest : Layer) : mergeUp deepest [] = .ok deepest.theme := rfl

theorem mergeUp_cons (deepest l : Layer) (layers : List Layer) :
    mergeUp deepest (l :: layers) =
      (mergeUp deepest layers).bind fun lower => lower.merge l.theme := by
  rw [mergeUp, List.reverse_cons, List.foldlM_append]
  change (mergeUp deepest layers).bind (fun lower => (lower.merge l.theme).bind .ok) = _
  congr 1
  funext lower
  cases lower.merge l.theme <;> rfl

theorem foldr_onBase_ok {deepest : Layer} {layers : List Layer} {t : Theme}
    (h : mergeUp deepest layers = .ok t) : layers.foldr onBase (.ok deepest.theme) = .ok t := by
  induction layers generalizing t with
  | nil => exact congrArg Except.ok (Except.ok.inj h)
  | cons l layers ih =>
    rw [mergeUp_cons] at h
    cases hlower : mergeUp deepest layers with
    | error found => simp [hlower, Except.bind] at h
    | ok lower =>
      have hmerge : lower.merge l.theme = .ok t := by simpa [hlower, Except.bind] using h
      rw [List.foldr_cons, ih hlower, onBase, hmerge]
      rfl

/-- The first merge that fails decides, and the layers above it are named. -/
theorem foldr_onBase_rejected {deepest : Layer} {layers : List Layer} {found : Diagnostics}
    (h : mergeUp deepest layers = .error found) :
    ∃ above l below lower, layers = above ++ l :: below ∧ mergeUp deepest below = .ok lower ∧
      lower.merge l.theme = .error found ∧
      layers.foldr onBase (.ok deepest.theme) = .error (inBases above (.rejected found)) := by
  induction layers with
  | nil => simp [mergeUp_nil] at h
  | cons l layers ih =>
    rw [mergeUp_cons] at h
    -- If a merge fails below already, this layer is only named on top; otherwise it is the first.
    cases hlower : mergeUp deepest layers with
    | error found' =>
      obtain rfl : found' = found := by simpa [hlower, Except.bind] using h
      obtain ⟨above, m, below, lower, rfl, hbelow, hmerge, hfold⟩ := ih hlower
      refine ⟨l :: above, m, below, lower, rfl, hbelow, hmerge, ?_⟩
      rw [List.foldr_cons, hfold]
      rfl
    | ok lower =>
      have hmerge : lower.merge l.theme = .error found := by simpa [hlower, Except.bind] using h
      refine ⟨[], l, layers, lower, rfl, hlower, hmerge, ?_⟩
      rw [List.foldr_cons, foldr_onBase_ok hlower, onBase, hmerge]
      rfl

/-- The stylesheet of merged layers is that of the nearest one that declares any. -/
theorem stylesheet_of_mergeUp {deepest : Layer} {layers : List Layer} {t : Theme}
    (h : mergeUp deepest layers = .ok t) :
    t.stylesheet = (layers ++ [deepest]).findSome? Layer.stylesheet? := by
  induction layers generalizing t with
  | nil =>
    -- The deepest theme has no layer under it to take a stylesheet from.
    obtain rfl := Except.ok.inj h
    have hone : [deepest].findSome? Layer.stylesheet? = deepest.stylesheet? := by
      rw [List.findSome?_cons]
      cases deepest.stylesheet? <;> rfl
    rw [List.nil_append, hone]
    rfl
  | cons l layers ih =>
    rw [mergeUp_cons] at h
    cases hlower : mergeUp deepest layers with
    | error found => simp [hlower, Except.bind] at h
    | ok lower =>
      have hmerge : lower.merge l.theme = .ok t := by simpa [hlower, Except.bind] using h
      have hfirst : t.stylesheet = l.stylesheet?.orElse fun _ => lower.stylesheet :=
        stylesheet_of_merge hmerge
      rw [hfirst, ih hlower, List.cons_append, List.findSome?_cons]
      cases l.stylesheet? <;> rfl

/-! ## Every chain stops -/

/-- A file that leads no further: a theme without a base, or no theme at all. -/
def LeadsNowhere (disk : Disk) (file : Path) : Prop :=
  (∃ l : Layer, l.file = file ∧ l.StandsOn disk ∧ l.base? = none) ∨
    ∃ failure, Refused disk file failure

/-- A path leads to a visited place or to the file of a layer. -/
def Seen (disk : Disk) (visited : List (List String)) (layers : List Layer) (file : Path) : Prop :=
  ∃ place, disk.locate file = .ok place ∧
    (place ∈ visited ∨ ∃ l ∈ layers, disk.locate l.file = .ok place)

theorem seen_nil_iff {disk : Disk} {layers : List Layer} (h : ∀ l ∈ layers, l.StandsOn disk)
    (file : Path) : Seen disk [] layers file ↔ Revisits disk layers file := by
  constructor
  · rintro ⟨place, hplace, hmem | ⟨l, hl, hlplace⟩⟩
    · simp at hmem
    · exact ⟨l, hl, hplace.trans hlplace.symm⟩
  · rintro ⟨l, hl, hsame⟩
    obtain ⟨place, text, -, hplace, -⟩ := (h l hl).fileAt
    exact ⟨place, hsame.trans hplace, .inr ⟨l, hl, hplace⟩⟩

/-- A layer in front of a chain counts like a visited place. -/
theorem seen_cons_iff {disk : Disk} {visited : List (List String)} {l : Layer}
    {place : List String} (hplace : disk.locate l.file = .ok place) (layers : List Layer)
    (file : Path) : Seen disk visited (l :: layers) file ↔
      Seen disk (place :: visited) layers file := by
  unfold Seen
  simp only [List.mem_cons, exists_eq_or_imp, hplace, Except.ok.injEq]
  refine exists_congr fun found => and_congr_right fun _ => ?_
  rw [eq_comm, or_left_comm, or_assoc]

/-- A file leads nowhere, or it is a layer on a base. -/
theorem leadsNowhere_or (disk : Disk) (file : Path) : LeadsNowhere disk file ∨
    ∃ l : Layer, l.file = file ∧ l.StandsOn disk ∧ ∃ base, l.base? = some base := by
  cases hread : disk.read file with
  | error e => exact .inl (.inr ⟨_, .unreadable hread⟩)
  | ok text =>
    cases hparse : Theme.parse text with
    | error e => exact .inl (.inr ⟨_, .unparsable hread hparse⟩)
    | ok reading =>
      by_cases hkeys : reading.unknownKeys = []
      · have hl : (Layer.mk file reading.theme).StandsOn disk :=
          ⟨text, hread, by rw [hparse, ← hkeys]⟩
        cases hbase : (Layer.mk file reading.theme).base? with
        | none => exact .inl (.inl ⟨_, rfl, hl, hbase⟩)
        | some base => exact .inr ⟨_, rfl, hl, base, hbase⟩
      · exact .inl (.inr ⟨_, .unknownKeys hread hparse hkeys⟩)

/-- Going down from a file stops, after no more layers than there are files to visit. The
induction is on their number. -/
theorem exists_stop (disk : Disk) (n : Nat) : ∀ (visited : List (List String)) (file : Path),
    (unvisited disk visited).length = n →
    ∃ layers last, Leads disk file layers last ∧ Apart disk layers ∧ NewTo disk visited layers ∧
      layers.length ≤ n ∧ (Seen disk visited layers last ∨ LeadsNowhere disk last) := by
  induction n using Nat.strongRecOn with
  | ind n ih =>
    intro visited file hn
    -- It stops here, at a file that was seen or that leads nowhere, or it goes down one layer.
    by_cases hstop : Seen disk visited [] file ∨ LeadsNowhere disk file
    · exact ⟨[], file, .here file, .nil, by simp [NewTo], by simp, hstop⟩
    · obtain ⟨hnotSeen, hleads⟩ := not_or.1 hstop
      obtain ⟨l, rfl, hl, base, hbase⟩ := (leadsNowhere_or disk file).resolve_left hleads
      obtain ⟨place, text, hfile, hplace, -⟩ := hl.fileAt
      -- The file is a new one, so fewer files are left to visit.
      have hnew : place ∉ visited := fun hmem => hnotSeen ⟨place, hplace, .inl hmem⟩
      have hless := length_unvisited hfile (by simpa using hnew)
      rw [hn] at hless
      obtain ⟨layers, last, hleads, hapart, hnewTo, hlength, hlast⟩ :=
        ih _ hless (place :: visited) base rfl
      refine ⟨l :: layers, last, .down hl hbase hleads, ?_, ?_, ?_, ?_⟩
      · refine List.pairwise_cons.2 ⟨fun m hm hsame => ?_, hapart⟩
        exact hnewTo m hm place (hsame.symm.trans hplace) (by simp)
      · intro m hm place' hplace' hmem
        rcases List.mem_cons.1 hm with rfl | hm
        · exact hnew (Except.ok.inj (hplace'.symm.trans hplace) ▸ hmem)
        · exact hnewTo m hm place' hplace' (by simp [hmem])
      · rw [List.length_cons]
        omega
      · rwa [seen_cons_iff hplace]

/-! ## Loading -/

section loading
variable {disk : Disk} {verbose : Bool} {start last : Path} {layers : List Layer}

/-- What loading ends in is what the end of the chain gives, taken up through its layers. -/
theorem ends_load {r : Except Failure Theme} (h : Leads disk start layers last)
    (hapart : Apart disk layers)
    (hlast : ∀ visited, (∀ place, place ∈ visited ↔ ∃ l ∈ layers, disk.locate l.file = .ok place) →
      Ends (loadChain disk verbose visited last) r) :
    Ends (load disk verbose start) (layers.foldr onBase r) :=
  ends_of_leads h [] (by simp [NewTo]) hapart fun visited hvisited =>
    hlast visited fun place => by simpa using hvisited place

theorem ends_load_of_revisits (h : Leads disk start layers last) (hapart : Apart disk layers)
    (hagain : Revisits disk layers last) :
    Ends (load disk verbose start) (.error (inBases layers (.selfExtending last))) := by
  rw [← foldr_onBase_error]
  refine ends_load h hapart fun visited hvisited => ?_
  obtain ⟨l, hl, hsame⟩ := hagain
  obtain ⟨place, text, hfile, hplace, -⟩ := (h.standsOn l hl).fileAt
  have hlast : disk.fileAt last = .ok (place, text) :=
    Disk.fileAt_eq_ok_iff.2 ⟨hsame.trans hplace, (Disk.fileAt_eq_ok_iff.1 hfile).2⟩
  exact ends_of_visited hlast ((hvisited place).2 ⟨l, hl, hplace⟩)

/-- A file that no layer has visited is new to loading. -/
theorem new_of_not_revisits (hnew : ¬Revisits disk layers last) {visited : List (List String)}
    (hvisited : ∀ place, place ∈ visited ↔ ∃ l ∈ layers, disk.locate l.file = .ok place) :
    ∀ place, disk.locate last = .ok place → place ∉ visited := by
  intro place hplace hmem
  obtain ⟨l, hl, hlplace⟩ := (hvisited place).1 hmem
  exact hnew ⟨l, hl, hplace.trans hlplace.symm⟩

theorem ends_load_of_refused (h : Leads disk start layers last) (hapart : Apart disk layers)
    (hnew : ¬Revisits disk layers last) {failure : Failure} (hrefused : Refused disk last failure) :
    Ends (load disk verbose start) (.error (inBases layers failure)) := by
  rw [← foldr_onBase_error]
  exact ends_load h hapart fun visited hvisited =>
    ends_of_refused hrefused (new_of_not_revisits hnew hvisited)

theorem ends_load_of_root {deepest : Layer} (h : Leads disk start layers deepest.file)
    (hapart : Apart disk layers) (hnew : ¬Revisits disk layers deepest.file)
    (hl : deepest.StandsOn disk) (hbase : deepest.base? = none) :
    Ends (load disk verbose start) (layers.foldr onBase (.ok deepest.theme)) :=
  ends_load h hapart fun _ hvisited => ends_of_root hl hbase (new_of_not_revisits hnew hvisited)

end loading

/-- Loading a theme goes down a chain of different files that is no longer than the disk has files
and stops where the chain comes back or leads no further. If it comes back, loading fails with the
file that extends itself. If it ends in a theme without a base, loading gives the layers merged
from that theme up, with the stylesheet of the nearest layer that declares one, or what the first
merge that fails has found. -/
theorem load_follows_chain (disk : Disk) (verbose : Bool) (start : Path) :
    (∃ layers last, Leads disk start layers last ∧ Apart disk layers ∧
      layers.length ≤ disk.tree.files.length ∧
      (Revisits disk layers last ∨ LeadsNowhere disk last)) ∧
    ∀ layers last, Leads disk start layers last → Apart disk layers →
      (Revisits disk layers last →
        Ends (load disk verbose start) (.error (inBases layers (.selfExtending last)))) ∧
      (¬Revisits disk layers last →
        (∀ failure, Refused disk last failure →
          Ends (load disk verbose start) (.error (inBases layers failure))) ∧
        ∀ deepest : Layer, deepest.file = last → deepest.StandsOn disk → deepest.base? = none →
          (∀ t, mergeUp deepest layers = .ok t →
            Ends (load disk verbose start) (.ok t) ∧
            t.stylesheet = (layers ++ [deepest]).findSome? Layer.stylesheet?) ∧
          ∀ found, mergeUp deepest layers = .error found →
            ∃ above l below lower, layers = above ++ l :: below ∧
              mergeUp deepest below = .ok lower ∧ lower.merge l.theme = .error found ∧
              Ends (load disk verbose start) (.error (inBases above (.rejected found)))) := by
  constructor
  · have hall : (unvisited disk []).length = disk.tree.files.length := by simp [unvisited]
    obtain ⟨layers, last, hleads, hapart, -, hlength, hlast⟩ := exists_stop disk _ [] start hall
    rw [seen_nil_iff hleads.standsOn] at hlast
    exact ⟨layers, last, hleads, hapart, hlength, hlast⟩
  · intro layers last hleads hapart
    refine ⟨ends_load_of_revisits hleads hapart, fun hnew => ⟨fun failure hrefused =>
      ends_load_of_refused hleads hapart hnew hrefused, ?_⟩⟩
    rintro deepest rfl hl hbase
    have hends : Ends (load disk verbose start) (layers.foldr onBase (.ok deepest.theme)) :=
      ends_load_of_root hleads hapart hnew hl hbase
    constructor
    · intro t hmerge
      rw [foldr_onBase_ok hmerge] at hends
      exact ⟨hends, stylesheet_of_mergeUp hmerge⟩
    · intro found hmerge
      obtain ⟨above, l, below, lower, hsplit, hlower, hfound, hfold⟩ :=
        foldr_onBase_rejected hmerge
      rw [hfold] at hends
      exact ⟨above, l, below, lower, hsplit, hlower, hfound, hends⟩

/-- A disk with a theme on a base in another directory, and one that extends itself in a
roundabout way. -/
def chainDisk : Disk where
  cwd := ⟨"/"⟩
  tree := .dir
    [("a.toml", .file "extends = 'd/b.toml'"), ("c.toml", .file "extends = 'd/../c.toml'"),
      ("d", .dir [("b.toml", .file "stylesheet = 's.css'")])]

/-- The theme of `a.toml`. -/
def upperLayer : Layer := ⟨⟨"/a.toml"⟩, { baseFile := some ⟨"d/b.toml"⟩ }⟩

/-- The theme of `d/b.toml`. -/
def lowerLayer : Layer := ⟨⟨"/d/b.toml"⟩, { stylesheet := some ⟨"s.css"⟩ }⟩

/-- The theme of `c.toml`. -/
def roundLayer : Layer := ⟨⟨"/c.toml"⟩, { baseFile := some ⟨"d/../c.toml"⟩ }⟩

theorem load_follows_chain_disk :
    (∃ t, Ends (load chainDisk true ⟨"/a.toml"⟩) (.ok t) ∧ t.stylesheet = some ⟨"/d/s.css"⟩) ∧
    Ends (load chainDisk true ⟨"/c.toml"⟩)
      (.error (.inBaseOf ⟨"/c.toml"⟩ (.selfExtending ⟨"/d/../c.toml"⟩))) := by
  have hupper : upperLayer.StandsOn chainDisk := ⟨"extends = 'd/b.toml'", by decide +kernel, by cbv⟩
  have hlower : lowerLayer.StandsOn chainDisk := ⟨"stylesheet = 's.css'", by decide +kernel, by cbv⟩
  have hround : roundLayer.StandsOn chainDisk :=
    ⟨"extends = 'd/../c.toml'", by decide +kernel, by cbv⟩
  constructor
  · have hleads : Leads chainDisk ⟨"/a.toml"⟩ [upperLayer] lowerLayer.file :=
      .down hupper (by decide +kernel) (.here _)
    have hnew : ¬Revisits chainDisk [upperLayer] lowerLayer.file := by
      have hbelow : chainDisk.locate lowerLayer.file = .ok ["d", "b.toml"] := by decide +kernel
      have habove : chainDisk.locate upperLayer.file = .ok ["a.toml"] := by decide +kernel
      rintro ⟨l, hl, hsame⟩
      rw [List.mem_singleton.1 hl, hbelow, habove] at hsame
      simp at hsame
    obtain ⟨t, hmerge⟩ : ∃ t, mergeUp lowerLayer [upperLayer] = .ok t := ⟨_, rfl⟩
    have hall := ((load_follows_chain chainDisk true ⟨"/a.toml"⟩).2 _ _ hleads
      (List.pairwise_singleton _ _)).2 hnew
    obtain ⟨hends, hcss⟩ := (hall.2 lowerLayer rfl hlower (by decide +kernel)).1 t hmerge
    exact ⟨t, hends, hcss.trans (by decide +kernel)⟩
  · have hleads : Leads chainDisk ⟨"/c.toml"⟩ [roundLayer] ⟨"/d/../c.toml"⟩ :=
      .down hround (by decide +kernel) (.here _)
    have hagain : Revisits chainDisk [roundLayer] ⟨"/d/../c.toml"⟩ :=
      ⟨roundLayer, by simp, by decide +kernel⟩
    exact ((load_follows_chain chainDisk true ⟨"/c.toml"⟩).2 _ _ hleads
      (List.pairwise_singleton _ _)).1 hagain

end DocSite.Theme
