import Mathlib.Logic.Relation
import TokenAudit.Proofs.Files.Changes

/-!
# Creating and removing directories

A directory is created together with those above it that are missing, or removed with everything in
it. Whatever happens on the way, and whether or not it succeeds, nothing changes but this directory
and those above it that were missing.

## Main definitions

* `FileSystem.Adds`: one directory is created, at a place, below it or above it.
* `FileSystem.NoFiles`: no file is at a place or below it.
* `FileSystem.Site`: a trail of names leads from the place of a root to a place, with no links on
  the way.

## Main results

* `FileSystem.Site.createDirAll`: only directories on the way are created, one after the other, and
  if it succeeds, the directory is there.
* `FileSystem.Site.eq_erase_of_removeDirAll`: what is removed is what is at the end of the trail.
-/

namespace TokenAudit.FileSystem

variable {fs fs' : FileSystem} {follow : Bool} {place target : Location}

/-- A directory is created where there was nothing: at a place, below it or above it. -/
def Adds (target : Location) (fs fs' : FileSystem) : Prop :=
  ∃ place, fs.get? place = none ∧ (target <+: place ∨ place <+: target) ∧ fs' = fs.set place .dir

theorem ne_nil_of_get?_eq_none (h : fs.get? place = none) : place ≠ [] := by
  rintro rfl
  cases h

/-- Creating such a directory leaves everything else. -/
theorem Changes.adds {fs'' : FileSystem} (h : Changes target fs fs')
    (hadds : Adds target fs' fs'') :
    Changes target fs fs'' := by
  obtain ⟨place, hnone, hrelated, rfl⟩ := hadds
  have hself : (fs'.set place .dir).get? place = some .dir :=
    fs'.get?_set_self (ne_nil_of_get?_eq_none hnone)
  refine ⟨h.current, fun other => ?_⟩
  by_cases hother : other = place
  · subst hother
    rcases hrelated with hbelow | habove
    · exact .inr (.inl ⟨hbelow, .inr hself⟩)
    · rcases h.get? other with hsame | ⟨hbelow, _⟩ | ⟨_, _, hdir⟩
      · exact .inr (.inr ⟨habove, hsame ▸ hnone, hself⟩)
      · exact .inr (.inl ⟨hbelow, .inr hself⟩)
      · rw [hnone] at hdir
        cases hdir
  · rw [fs'.get?_set_of_ne hother]
    exact h.get? other

theorem Changes.trans_adds {fs'' : FileSystem} (h : Changes target fs fs')
    (hadds : Relation.ReflTransGen (Adds target) fs' fs'') : Changes target fs fs'' := by
  induction hadds with
  | refl => exact h
  | tail _ hstep ih => exact ih.adds hstep

/-- No file is at a place or below it. -/
def NoFiles (fs : FileSystem) (target : Location) : Prop :=
  ∀ place, target <+: place → ∀ content, fs.get? place ≠ some (.file content)

theorem noFiles_erase (fs : FileSystem) (hne : target ≠ []) : NoFiles (fs.erase target) target := by
  intro place hplace content hfile
  rw [fs.get?_erase_of_prefix hne hplace] at hfile
  cases hfile

/-- Creating directories creates no files. -/
theorem NoFiles.trans_adds {fs'' : FileSystem} (h : NoFiles fs' target)
    (hadds : Relation.ReflTransGen (Adds target) fs' fs'') : NoFiles fs'' target := by
  induction hadds with
  | refl => exact h
  | tail _ hstep ih =>
    obtain ⟨created, hnone, _, rfl⟩ := hstep
    intro place hplace content hfile
    by_cases hsame : place = created
    · subst hsame
      rw [get?_set_self _ (ne_nil_of_get?_eq_none hnone)] at hfile
      cases hfile
    · rw [get?_set_of_ne _ hsame] at hfile
      exact ih place hplace content hfile

/-- A trail of names leads from the place of a root to a place, with no links on the way. -/
structure Site (fs : FileSystem) (root : Path) (base trail : Location) : Prop where
  /-- The root leads to its place. -/
  leads : fs.Leads root base
  /-- There are no links below. -/
  linkFree : fs.LinkFree base
  /-- The trail has names. -/
  isEntry : ∀ name ∈ trail, IsEntry name
  /-- The trail leads down. -/
  ne_nil : trail ≠ []

namespace Site

variable {root path : Path} {base trail : Location} {fs'' : FileSystem}

/-- A beginning of the steps along a trail lies in the root, or ends on the trail. -/
theorem prefix_cases {steps : List Component}
    (h : steps <+: root.components ++ trail.map .normal) :
    steps <+: root.components ∨
      ∃ names, names ≠ [] ∧ names <+: trail ∧ steps = root.components ++ names.map .normal := by
  obtain ⟨rest, hrest⟩ := h
  rcases List.append_eq_append_iff.mp hrest with ⟨after, hroot, _⟩ | ⟨after, hsteps, htrail⟩
  · exact .inl ⟨after, hroot.symm⟩
  · obtain ⟨names, left, hsplit, hnames, _⟩ := List.map_eq_append_iff.mp htrail
    by_cases hempty : names = []
    · exact .inl ⟨[], by rw [hsteps, ← hnames, hempty, List.map_nil, List.append_nil,
        List.append_nil]⟩
    · exact .inr ⟨names, hempty, ⟨left, hsplit.symm⟩, by rw [hsteps, hnames]⟩

/-- A directory that is created comes where a path ends at a missing name. -/
theorem of_createDir_eq_ok (h : fs.createDir path = .ok fs'') :
    ∃ directory name closed, fs.resolve false path = .ok (.missing directory name closed) ∧
      fs'' = fs.set (directory ++ [name]) .dir := by
  rw [createDir] at h
  cases hresolve : fs.resolve false path with
  | error error =>
    rw [hresolve] at h
    cases h
  | ok result =>
    rw [hresolve] at h
    cases result with
    | found place => cases h
    | missing directory name closed =>
      cases h
      exact ⟨directory, name, closed, rfl, rfl⟩

/-- Creating a directory on the way creates one that was missing. -/
theorem adds_of_createDir (site : Site fs root base trail) (h : Changes (base ++ trail) fs fs')
    (hpath : path.components <+: root.components ++ trail.map .normal) (hne : path.components ≠ [])
    (hcreate : fs'.createDir path = .ok fs'') : Adds (base ++ trail) fs' fs'' := by
  obtain ⟨directory, name, closed, hresolve, hset⟩ := of_createDir_eq_ok hcreate
  refine ⟨directory ++ [name], get?_eq_none_of_resolveFrom (resolveFrom_of_resolve hresolve), ?_,
    hset⟩
  rcases prefix_cases hpath with hroot | ⟨names, hnames, htrail, hsteps⟩
  · exact .inl (h.prefix_of_resolve_eq_missing site.leads
      (site.linkFree.below (List.prefix_append base trail)) hroot hne hresolve)
  · rcases h.resolve_names site.leads site.linkFree (List.prefix_append base trail) hsteps
      (fun name hname => site.isEntry name (htrail.subset hname)) hnames hresolve with
      hfound | ⟨_, _, _, hmissing, hplace, _⟩
    · cases hfound
    · cases hmissing
      rw [hplace]
      exact .inr ((List.prefix_append_right_inj base).mpr htrail)

/-- Creating the directory at the end of the trail creates it there. -/
theorem get?_of_createDir (site : Site fs root base trail) (h : Changes (base ++ trail) fs fs')
    (hpath : path.components = root.components ++ trail.map .normal)
    (hcreate : fs'.createDir path = .ok fs'') : fs''.get? (base ++ trail) = some .dir := by
  obtain ⟨directory, name, closed, hresolve, hset⟩ := of_createDir_eq_ok hcreate
  rcases h.resolve_names site.leads site.linkFree (List.prefix_append base trail) hpath site.isEntry
    site.ne_nil hresolve with hfound | ⟨_, _, _, hmissing, hplace, hnone⟩
  · cases hfound
  · cases hmissing
    rw [hset, hplace]
    exact fs'.get?_set_self (ne_nil_of_get?_eq_none hnone)

/-- If the path along the trail leads to something, this is at the end of the trail. -/
theorem of_locate_eq_ok (site : Site fs root base trail) (h : Changes (base ++ trail) fs fs')
    (hpath : path.components = root.components ++ trail.map .normal)
    (hlocate : fs'.locate follow path = .ok place) : place = base ++ trail := by
  rw [locate] at hlocate
  cases hresolve : fs'.resolve follow path with
  | error error =>
    rw [hresolve] at hlocate
    cases hlocate
  | ok result =>
    rw [hresolve] at hlocate
    rcases h.resolve_names site.leads site.linkFree (List.prefix_append base trail) hpath
      site.isEntry site.ne_nil hresolve with rfl | ⟨_, _, _, rfl, _, _⟩
    · cases hlocate
      rfl
    · cases hlocate

theorem get?_of_isDir (site : Site fs root base trail) (h : Changes (base ++ trail) fs fs')
    (hpath : path.components = root.components ++ trail.map .normal)
    (hdir : fs'.isDir path = true) : fs'.get? (base ++ trail) = some .dir := by
  rw [isDir, node] at hdir
  cases hlocate : fs'.locate true path with
  | error error =>
    rw [hlocate] at hdir
    cases hdir
  | ok place =>
    rw [hlocate] at hdir
    rw [site.of_locate_eq_ok h hpath hlocate] at hdir
    cases hnode : fs'.get? (base ++ trail) with
    | none =>
      simp only [bind, Except.bind, hnode] at hdir
      cases hdir
    | some node =>
      simp only [bind, Except.bind, hnode] at hdir
      cases node with
      | dir => rfl
      | file content => cases hdir
      | link text => cases hdir

/-- A directory that is made sure of is created or there already. -/
theorem of_ensureDir_eq_ok (h : fs.ensureDir path = .ok fs'') :
    fs.createDir path = .ok fs'' ∨ fs'' = fs ∧ fs.isDir path = true := by
  rw [ensureDir] at h
  split at h
  · next hcreate => exact .inl (hcreate.trans h)
  · cases h
  · split at h
    · next hdir =>
      cases h
      exact .inr ⟨rfl, hdir⟩
    · cases h

/-- Creating the directory at the end of the trail with all those above it that are missing, begun
at any directory on the way: only missing directories are created, and if it succeeds for the whole
trail, the directory is there. -/
theorem createAbove (site : Site fs root base trail) (h : Changes (base ++ trail) fs fs')
    {steps : List Component} (hpath : path.components = steps.reverse)
    (hsteps : steps.reverse <+: root.components ++ trail.map .normal) :
    Relation.ReflTransGen (Adds (base ++ trail)) fs' (FileSystem.createAbove steps path fs').2 ∧
    ((FileSystem.createAbove steps path fs').1 = .ok () →
      steps.reverse = root.components ++ trail.map .normal →
      (FileSystem.createAbove steps path fs').2.get? (base ++ trail) = some .dir) := by
  induction steps generalizing path fs' with
  | nil =>
    refine ⟨.refl, fun _ hwhole => ?_⟩
    have hempty := (List.append_eq_nil_iff.mp hwhole.symm).2
    exact absurd (List.map_eq_nil_iff.mp hempty) site.ne_nil
  | cons step above ih =>
    have hne : path.components ≠ [] := by
      rw [hpath]
      simp
    have hfront : path.components <+: root.components ++ trail.map .normal := by
      rwa [hpath]
    have hcreated {before after : FileSystem} (hbefore : Changes (base ++ trail) fs before)
        (hcreate : before.createDir path = .ok after) :
        Adds (base ++ trail) before after ∧
          ((step :: above).reverse = root.components ++ trail.map .normal →
            after.get? (base ++ trail) = some .dir) :=
      ⟨site.adds_of_createDir hbefore hfront hne hcreate, fun hwhole =>
        site.get?_of_createDir hbefore (hpath.trans hwhole) hcreate⟩
    have habove : above.reverse <+: root.components ++ trail.map .normal :=
      (List.reverse_prefix.mpr (List.suffix_cons step above)).trans hsteps
    rw [FileSystem.createAbove]
    split
    · next after hensure =>
      rcases of_ensureDir_eq_ok hensure with hcreate | ⟨rfl, hdir⟩
      · exact ⟨.single (hcreated h hcreate).1, fun _ => (hcreated h hcreate).2⟩
      · exact ⟨.refl, fun _ hwhole => site.get?_of_isDir h (hpath.trans hwhole) hdir⟩
    · -- The directory above is missing and comes first.
      have hspelled : Path.Spelled above.reverse := by
        refine (Path.spelled_components path).front ⟨[step], ?_⟩
        rw [hpath, List.reverse_cons]
      obtain ⟨hadds, _⟩ := ih h (Path.components_ofComponents hspelled) habove
      split
      · next heq =>
        rw [heq] at hadds
        exact ⟨hadds, nofun⟩
      · next before heq =>
        rw [heq] at hadds
        have hbefore := h.trans_adds hadds
        split
        · next after hcreate =>
          exact ⟨hadds.tail (hcreated hbefore hcreate).1, fun _ => (hcreated hbefore hcreate).2⟩
        · refine ⟨hadds, fun hok hwhole => ?_⟩
          split at hok
          · next hdir => exact site.get?_of_isDir hbefore (hpath.trans hwhole) hdir
          · cases hok
    · exact ⟨.refl, nofun⟩

/-- Creating the directory at the end of the trail with all those above it that are missing. -/
theorem createDirAll (site : Site fs root base trail) (h : Changes (base ++ trail) fs fs')
    (hpath : path.components = root.components ++ trail.map .normal) :
    Relation.ReflTransGen (Adds (base ++ trail)) fs' (fs'.createDirAll path).2 ∧
    ((fs'.createDirAll path).1 = .ok () →
      (fs'.createDirAll path).2.get? (base ++ trail) = some .dir) := by
  have hreverse : path.components.reverse.reverse = path.components := List.reverse_reverse _
  obtain ⟨hadds, hdir⟩ := site.createAbove h hreverse.symm
    ⟨[], by rw [hreverse, hpath, List.append_nil]⟩
  exact ⟨hadds, fun hok => hdir hok (hreverse.trans hpath)⟩

/-- Removing the directory at the end of the trail removes what is there. -/
theorem eq_erase_of_removeDirAll (site : Site fs root base trail)
    (hpath : path.components = root.components ++ trail.map .normal)
    (hremove : fs.removeDirAll path = .ok fs'') : fs'' = fs.erase (base ++ trail) := by
  rw [removeDirAll] at hremove
  cases hlocate : fs.locate false path with
  | error error =>
    rw [hlocate] at hremove
    cases hremove
  | ok place =>
    rw [hlocate, site.of_locate_eq_ok (.refl _ fs) hpath hlocate] at hremove
    simp only [bind, Except.bind] at hremove
    split at hremove
    · cases hremove
    · cases hremove
      rfl

end Site

end TokenAudit.FileSystem
