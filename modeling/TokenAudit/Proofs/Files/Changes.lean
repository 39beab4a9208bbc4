import TokenAudit.Proofs.Files.Places

/-!
# Paths after a change

Something is removed or directories are created at a place and below it, where there are no links,
and directories above it that were missing are created. Paths then still lead where they led, unless
they go through what was removed: following such a path fails, or ends at something that is missing
there.

## Main definitions

* `FileSystem.Leads`: where a path leads.
* `FileSystem.Changes`: one file system differs from another only at a place, below it, and in
  directories above it that were missing.
* `FileSystem.Resembles`: how a walk after such a change compares to the walk before.

## Main results

* `FileSystem.Changes.resembles_walk`: walks along the same steps before and after a change.
* `FileSystem.Changes.resolve_names`: where a path leads after a change that has names after a root.
* `FileSystem.Changes.prefix_of_resolve_eq_missing`: a beginning of the root's path that no longer
  leads anywhere ends in the changed part.
-/

namespace TokenAudit.FileSystem

/-- A path leads to a place. The empty path leads to the current directory. -/
def Leads (fs : FileSystem) (path : Path) (place : Location) : Prop :=
  fs.resolveFrom true maxLinks (startOf path.text fs.current) (parts path.text) = .ok (.found place)

/-- There are no links at a place and below it. -/
def LinkFree (fs : FileSystem) (place : Location) : Prop :=
  ∀ below, place <+: below → ∀ target, fs.get? below ≠ some (.link target)

/-- One file system differs from another only at a place and below it, where there is nothing new
but directories, and in directories above this place that were missing. -/
structure Changes (target : Location) (fs fs' : FileSystem) : Prop where
  current : fs'.current = fs.current
  get? : ∀ place, fs'.get? place = fs.get? place ∨
    (target <+: place ∧ (fs'.get? place = none ∨ fs'.get? place = some .dir)) ∨
    (place <+: target ∧ fs.get? place = none ∧ fs'.get? place = some .dir)

variable {fs fs' : FileSystem} {follow : Bool} {location place target : Location}
  {steps other more : List String}

theorem LinkFree.below (h : fs.LinkFree location) (hfront : location <+: place) :
    fs.LinkFree place :=
  fun below hbelow => h below (hfront.trans hbelow)

namespace Changes

theorem refl (target : Location) (fs : FileSystem) : Changes target fs fs :=
  ⟨rfl, fun _ => .inl rfl⟩

/-- What was there is there, unless it is in the changed part. -/
theorem of_get?_eq_some (h : Changes target fs fs') {node : Node}
    (hnode : fs.get? place = some node) :
    fs'.get? place = some node ∨
      (target <+: place ∧ (fs'.get? place = none ∨ fs'.get? place = some .dir)) := by
  rcases h.get? place with hsame | hbelow | ⟨_, hnone, _⟩
  · exact .inl (hsame.trans hnode)
  · exact .inr hbelow
  · rw [hnone] at hnode
    cases hnode

theorem linkFree (h : Changes target fs fs') (hfree : fs.LinkFree location) :
    fs'.LinkFree location := by
  intro below hbelow link hlink
  rcases h.get? below with hsame | ⟨_, hnone | hdir⟩ | ⟨_, _, hdir⟩
  · exact hfree below hbelow link (hsame ▸ hlink)
  · rw [hnone] at hlink
    cases hlink
  · rw [hdir] at hlink
    cases hlink
  · rw [hdir] at hlink
    cases hlink

/-- Removing what is at a place, with everything below. -/
theorem erase (fs : FileSystem) (hne : target ≠ []) : Changes target fs (fs.erase target) := by
  refine ⟨rfl, fun place => ?_⟩
  by_cases hbelow : target <+: place
  · exact .inr (.inl ⟨hbelow, .inl (fs.get?_erase_of_prefix hne hbelow)⟩)
  · exact .inl (fs.get?_erase_of_not_prefix hbelow)

end Changes

/-! ## Walks along the same steps -/

/-- Parts that lead nowhere else do not matter in a walk that does not fail. -/
theorem walk_append_of_not_leadsOn {dots : List String} (h : ∀ part ∈ dots, ¬leadsOn part = true) :
    (∃ error, fs.walk follow location (dots ++ more) = .failed error) ∨
      fs.walk follow location (dots ++ more) = fs.walk follow location more := by
  induction dots with
  | nil => exact .inr rfl
  | cons part rest ih =>
    by_cases hdir : fs.get? location = some .dir
    · rw [List.cons_append,
        walk_cons_of_not_leadsOn hdir (Bool.eq_false_iff.mpr (h part List.mem_cons_self))]
      exact ih fun other hother => h other (List.mem_cons_of_mem part hother)
    · exact .inl ⟨_, walk_cons_of_ne_dir hdir⟩

/-- A walk has left its way: it has come to something missing in the changed part, or to the end of
all parts. -/
def Astray (target : Location) (more : List String) : Resolved → Prop
  | .found _ => more = []
  | .missing directory name _ => target <+: directory ++ [name] ∧ ∀ part ∈ more, part = ""

theorem filter_leadsOn_eq_nil (h : ∀ part ∈ more, part = "") : more.filter leadsOn = [] := by
  refine List.filter_eq_nil_iff.mpr fun part hpart => ?_
  rw [h part hpart]
  decide

/-- Only a walk that has no names to go goes astray. -/
theorem Astray.filter_eq_nil {result : Resolved} (h : Astray target more result) :
    more.filter leadsOn = [] := by
  cases result with
  | found place =>
    have hmore : more = [] := h
    rw [hmore, List.filter_nil]
  | missing directory name closed => exact filter_leadsOn_eq_nil h.2

/-- How a walk with more parts in a changed file system compares to one in the file system as it
was: it fails, goes astray, or comes to the same place or the same link. -/
def Resembles (fs' : FileSystem) (follow : Bool) (target : Location) (more : List String)
    (changed known : Walk) : Prop :=
  (∃ error, changed = .failed error) ∨
  (∃ result, Astray target more result ∧ changed = .ended result) ∨
    match known with
    | .ended (.found place) => changed = fs'.walk follow place more
    | .link directory text rest =>
      ∃ left, left.filter leadsOn = rest.filter leadsOn ∧
        changed = .link directory text (left ++ more)
    | _ => True

/-- At a name, walks resemble each other if they do so from there on. -/
theorem Changes.resembles_name (h : Changes target fs fs') (hfree : fs.LinkFree target)
    {part : String} {rest left : List String} (hname : IsName part)
    (hdir : fs.get? location = some .dir) (hdir' : fs'.get? location = some .dir)
    (hleft : left.filter leadsOn = rest.filter leadsOn)
    (hnext : Resembles fs' follow target more
      (fs'.walk follow (location ++ [part]) (left ++ more))
      (fs.walk true (location ++ [part]) rest)) :
    Resembles fs' follow target more (fs'.walk follow location (part :: (left ++ more)))
      (fs.walk true location (part :: rest)) := by
  rw [walk_cons_of_isName hdir hname, walk_cons_of_isName hdir' hname]
  by_cases hlong : 255 < part.utf8ByteSize
  · exact .inl ⟨_, if_pos hlong⟩
  · rw [if_neg hlong, if_neg hlong]
    cases hnode : fs.get? (location ++ [part]) with
    | none =>
      refine .inr (.inr ?_)
      by_cases hempty : (rest.all fun part => part.isEmpty) = true
      · simp only [hempty, if_true]
      · simp only [hempty, Bool.false_eq_true, if_false]
    | some node =>
      rcases h.of_get?_eq_some hnode with hkept | ⟨hbelow, hnone | hnew⟩
      · rw [hkept]
        cases node with
        | link text =>
          by_cases hend : ((left ++ more).isEmpty && !follow) = true
          · have hmore : more = [] := by
              rw [Bool.and_eq_true, List.isEmpty_iff, List.append_eq_nil_iff] at hend
              exact hend.1.2
            exact .inr (.inl ⟨.found _, hmore, if_pos hend⟩)
          · refine .inr (.inr ?_)
            simp only [Bool.not_true, Bool.and_false, Bool.false_eq_true, if_false]
            exact ⟨left, hleft, if_neg hend⟩
        | dir => exact hnext
        | file content => exact hnext
      · rw [hnone]
        by_cases hempty : ((left ++ more).all fun part => part.isEmpty) = true
        · refine .inr (.inl
            ⟨.missing location part _, ⟨hbelow, fun other hother => ?_⟩, if_pos hempty⟩)
          simpa using List.all_eq_true.mp hempty other (List.mem_append_right left hother)
        · exact .inl ⟨_, if_neg hempty⟩
      · rw [hnew]
        cases node with
        | link text => exact absurd hnode (hfree _ hbelow text)
        | dir => exact hnext
        | file content => exact hnext

/-- A walk in a changed file system resembles the walk along the same steps in the file system as it
was. -/
theorem Changes.resembles_walk (h : Changes target fs fs') (hfree : fs.LinkFree target)
    (hsame : other.filter leadsOn = steps.filter leadsOn) :
    Resembles fs' follow target more (fs'.walk follow location (other ++ more))
      (fs.walk true location steps) := by
  induction steps generalizing location other with
  | nil =>
    rw [List.filter_nil, List.filter_eq_nil_iff] at hsame
    rcases walk_append_of_not_leadsOn hsame with hfailed | hwalk
    · exact .inl hfailed
    · exact .inr (.inr hwalk)
  | cons part rest ih =>
    by_cases hdir : fs.get? location = some .dir
    · rcases part_cases part with hstay | hleads
      · rw [walk_cons_of_not_leadsOn hdir hstay]
        exact ih (hsame.trans (List.filter_cons_of_neg (by simp [hstay])))
      · -- Both walks take the same part next, after parts that lead nowhere else.
        have hpart : leadsOn part = true := by
          rcases hleads with rfl | hname
          · rfl
          · exact leadsOn_of_isName hname
        rw [List.filter_cons_of_pos hpart, List.filter_eq_cons_iff] at hsame
        obtain ⟨dots, left, rfl, hdots, _, hleft⟩ := hsame
        rw [List.append_assoc, List.cons_append]
        rcases walk_append_of_not_leadsOn hdots with hfailed | hwalk
        · exact .inl hfailed
        · rw [hwalk]
          by_cases hdir' : fs'.get? location = some .dir
          · rcases hleads with rfl | hname
            · rw [walk_cons_up hdir, walk_cons_up hdir']
              exact ih hleft
            · exact h.resembles_name hfree hname hdir hdir' hleft (ih hleft)
          · exact .inl ⟨_, walk_cons_of_ne_dir hdir'⟩
    · rw [walk_cons_of_ne_dir hdir]
      exact .inr (.inr trivial)

/-- What resolving a path comes to in a changed file system, if the path led to a place before. -/
theorem Changes.resolveFrom_cases (h : Changes target fs fs') (hfree : fs.LinkFree target)
    {links : Nat} (hsame : other.filter leadsOn = steps.filter leadsOn) {result : Resolved}
    (hleads : fs.resolveFrom true links location steps = .ok (.found place))
    (hresult : fs'.resolveFrom follow links location (other ++ more) = .ok result) :
    Astray target more result ∨ ∃ links, fs'.resolveFrom follow links place more = .ok result := by
  induction links using Nat.strongRecOn generalizing location steps other with
  | ind links ih =>
    rw [resolveFrom] at hleads hresult
    rcases h.resembles_walk hfree hsame with ⟨error, hfailed⟩ | ⟨end', hastray, hended⟩ | hmatch
    · rw [hfailed] at hresult
      cases hresult
    · rw [hended] at hresult
      cases hresult
      exact .inl hastray
    · cases hknown : fs.walk true location steps with
      | failed error =>
        rw [hknown] at hleads
        cases hleads
      | ended found =>
        rw [hknown] at hleads hmatch
        cases hleads
        rw [hmatch] at hresult
        exact .inr ⟨links, by rw [resolveFrom]; exact hresult⟩
      | link directory text rest =>
        rw [hknown] at hleads hmatch
        obtain ⟨left, hleft, hlink⟩ := hmatch
        rw [hlink] at hresult
        cases links with
        | zero => cases hleads
        | succ links =>
          have hrest : fs'.resolveFrom follow links (startOf text directory)
              ((parts text ++ left) ++ more) = .ok result := by
            rw [List.append_assoc]
            exact hresult
          refine ih links (Nat.lt_succ_self links) ?_ hleads hrest
          rw [List.filter_append, List.filter_append, hleft]

/-! ## Beginnings of paths -/

/-- The walk along the beginning of a path: it comes to something, from where the whole walk goes
on, or to the link that the whole walk comes to, or the whole walk does not come to anything. -/
theorem walk_append_cases (fs : FileSystem) (location : Location) (steps more : List String) :
    (∃ place, fs.walk true location steps = .ended (.found place) ∧
      fs.walk true location (steps ++ more) = fs.walk true place more) ∨
    (∃ directory text rest, fs.walk true location steps = .link directory text rest ∧
      fs.walk true location (steps ++ more) = .link directory text (rest ++ more)) ∨
    (∃ error, fs.walk true location (steps ++ more) = .failed error) ∨
    ∃ directory name closed,
      fs.walk true location (steps ++ more) = .ended (.missing directory name closed) := by
  induction steps generalizing location with
  | nil => exact .inl ⟨location, rfl, rfl⟩
  | cons part rest ih =>
    rw [List.cons_append]
    by_cases hdir : fs.get? location = some .dir
    · rcases part_cases part with hstay | rfl | hname
      · rw [walk_cons_of_not_leadsOn hdir hstay, walk_cons_of_not_leadsOn hdir hstay]
        exact ih location
      · rw [walk_cons_up hdir, walk_cons_up hdir]
        exact ih _
      · rw [walk_cons_of_isName hdir hname, walk_cons_of_isName hdir hname]
        by_cases hlong : 255 < part.utf8ByteSize
        · exact .inr (.inr (.inl ⟨_, if_pos hlong⟩))
        · rw [if_neg hlong, if_neg hlong]
          cases hnode : fs.get? (location ++ [part]) with
          | none =>
            by_cases hempty : ((rest ++ more).all fun part => part.isEmpty) = true
            · exact .inr (.inr (.inr ⟨_, _, _, if_pos hempty⟩))
            · exact .inr (.inr (.inl ⟨_, if_neg hempty⟩))
          | some node =>
            cases node with
            | link text =>
              refine .inr (.inl ⟨location, text, rest, ?_, ?_⟩)
              · simp only [Bool.not_true, Bool.and_false, Bool.false_eq_true, if_false]
              · simp only [Bool.not_true, Bool.and_false, Bool.false_eq_true, if_false]
            | dir => exact ih _
            | file content => exact ih _
    · exact .inr (.inr (.inl ⟨_, walk_cons_of_ne_dir hdir⟩))

/-- The beginning of a path that leads to a place leads to a place, from where the path goes on. -/
theorem exists_resolveFrom_of_append {links : Nat}
    (h : fs.resolveFrom true links location (steps ++ more) = .ok (.found place)) :
    ∃ above, fs.resolveFrom true links location steps = .ok (.found above) ∧
      ∃ left, fs.resolveFrom true left above more = .ok (.found place) := by
  induction links using Nat.strongRecOn generalizing location steps with
  | ind links ih =>
    rw [resolveFrom] at h
    rw [resolveFrom]
    rcases walk_append_cases fs location steps more with
      ⟨above, hfound, hon⟩ | ⟨directory, text, rest, hlink, hwhole⟩ | ⟨error, hfailed⟩ |
        ⟨directory, name, closed, hmissing⟩
    · rw [hon, ← resolveFrom] at h
      exact ⟨above, by rw [hfound], links, h⟩
    · rw [hwhole] at h
      rw [hlink]
      cases links with
      | zero => cases h
      | succ links =>
        refine ih links (Nat.lt_succ_self links) ?_
        rw [List.append_assoc]
        exact h
    · rw [hfailed] at h
      cases h
    · rw [hmissing] at h
      cases h

/-! ## Names below a place without links -/

/-- Names lead down, whatever parts stand between them that lead nowhere else. -/
theorem destination_of_filter (h : ∀ name ∈ more.filter leadsOn, IsName name)
    (location : Location) : destination location more = location ++ more.filter leadsOn := by
  induction more generalizing location with
  | nil => simp
  | cons part rest ih =>
    rw [destination_cons]
    by_cases hleads : leadsOn part = true
    · rw [List.filter_cons_of_pos hleads] at h ⊢
      rw [advance_of_isName (h part List.mem_cons_self),
        ih fun name hname => h name (List.mem_cons_of_mem part hname)]
      simp
    · rw [List.filter_cons_of_neg hleads] at h ⊢
      rw [advance_of_not_leadsOn (Bool.eq_false_iff.mpr hleads), ih h]

/-- A walk along names comes to no link if there are none below. -/
theorem walk_ne_link (hfree : fs.LinkFree location) (h : ∀ name ∈ more.filter leadsOn, IsName name)
    (directory : Location) (text : String) (rest : List String) :
    fs.walk follow location more ≠ .link directory text rest := by
  induction more generalizing location with
  | nil => nofun
  | cons part more ih =>
    have hbelow : location <+: advance location part ∧
        ∀ name ∈ more.filter leadsOn, IsName name := by
      by_cases hleads : leadsOn part = true
      · rw [List.filter_cons_of_pos hleads] at h
        rw [advance_of_isName (h part List.mem_cons_self)]
        exact ⟨List.prefix_append _ _, fun name hname => h name (List.mem_cons_of_mem part hname)⟩
      · rw [List.filter_cons_of_neg hleads] at h
        rw [advance_of_not_leadsOn (Bool.eq_false_iff.mpr hleads)]
        exact ⟨List.prefix_refl _, h⟩
    rcases walk_cons_cases fs follow location part more with
      ⟨_, hwalk⟩ | ⟨_, hwalk⟩ | ⟨_, _, _, hwalk⟩ | ⟨target, _, _, hlink, _⟩
    · rw [hwalk]
      nofun
    · rw [hwalk]
      exact ih (hfree.below hbelow.1) hbelow.2
    · rw [hwalk]
      nofun
    · exact absurd hlink (hfree _ (List.prefix_append _ _) target)

/-- Names below a place without links lead to the place that they spell, if they lead anywhere. -/
theorem resolveFrom_names (hfree : fs.LinkFree location) {links : Nat} {result : Resolved}
    (h : ∀ name ∈ more.filter leadsOn, IsName name)
    (hresult : fs.resolveFrom follow links location more = .ok result) :
    result = .found (location ++ more.filter leadsOn) ∨
    ∃ directory name closed, result = .missing directory name closed ∧
      directory ++ [name] = location ++ more.filter leadsOn ∧
      fs.get? (directory ++ [name]) = none := by
  rw [resolveFrom] at hresult
  cases hwalk : fs.walk follow location more with
  | failed error =>
    rw [hwalk] at hresult
    cases hresult
  | link directory text rest => exact absurd hwalk (walk_ne_link hfree h directory text rest)
  | ended found =>
    rw [hwalk] at hresult
    cases hresult
    cases result with
    | found place =>
      rw [(of_walk_eq_found hwalk).1, destination_of_filter h]
      exact .inl rfl
    | missing directory name closed =>
      obtain ⟨before, after, hmore, hafter, hname, hdirectory, hmissing, _⟩ :=
        of_walk_eq_missing hwalk
      refine .inr ⟨directory, name, closed, rfl, ?_, hmissing⟩
      have hfilter : more.filter leadsOn = before.filter leadsOn ++ [name] := by
        rw [hmore, List.filter_append, List.filter_cons_of_pos (leadsOn_of_isName hname),
          filter_leadsOn_eq_nil hafter]
      rw [hfilter] at h ⊢
      rw [hdirectory, destination_of_filter fun name hname => h name (List.mem_append_left _ hname),
        List.append_assoc]

/-! ## Paths below a place without links -/

theorem resolveFrom_of_resolve {path : Path} {result : Resolved}
    (h : fs.resolve follow path = .ok result) :
    fs.resolveFrom follow maxLinks (startOf path.text fs.current) (parts path.text) =
      .ok result := by
  rw [resolve] at h
  split at h
  · cases h
  · split at h
    · cases h
    · split at h
      · cases h
      · exact h

/-- Where a path ends at a missing name, nothing is there. -/
theorem get?_eq_none_of_resolveFrom {links : Nat} {directory : Location} {name : String}
    {closed : Bool}
    (h : fs.resolveFrom follow links location steps = .ok (.missing directory name closed)) :
    fs.get? (directory ++ [name]) = none := by
  induction links using Nat.strongRecOn generalizing location steps with
  | ind links ih =>
    rw [resolveFrom] at h
    split at h
    · next hwalk =>
      cases h
      obtain ⟨_, _, _, _, _, _, hnone, _⟩ := of_walk_eq_missing hwalk
      exact hnone
    · cases h
    · cases links with
      | zero => cases h
      | succ links => exact ih links (Nat.lt_succ_self links) h

section Below

variable {root path : Path} {base trail : Location} {names : List String} {result : Resolved}

theorem startOf_congr (h : path.isAbsolute = root.isAbsolute) (directory : Location) :
    startOf path.text directory = startOf root.text directory := by
  have hhead : (path.text.toList.head? == some '/') = (root.text.toList.head? == some '/') := h
  rw [startOf, startOf, hhead]

/-- Where the path of something below the place that a root leads to can lead after a change. -/
theorem Changes.resolve_names (h : Changes target fs fs') (hroot : fs.Leads root base)
    (hfree : fs.LinkFree base) (htarget : base <+: target)
    (hpath : path.components = root.components ++ names.map .normal)
    (hnames : ∀ name ∈ names, IsEntry name) (hne : names ≠ [])
    (hresult : fs'.resolve follow path = .ok result) :
    result = .found (base ++ names) ∨
    ∃ directory name closed, result = .missing directory name closed ∧
      directory ++ [name] = base ++ names ∧ fs'.get? (base ++ names) = none := by
  have hparts : (parts path.text).filter leadsOn = (parts root.text).filter leadsOn ++ names := by
    rw [Path.filter_parts, hpath, List.filterMap_append, Path.filter_parts, List.filterMap_map]
    refine congrArg _ ?_
    exact List.filterMap_some
  obtain ⟨other, more, hsplit, hother, hmore⟩ := List.filter_eq_append_iff.mp hparts
  have habsolute : path.isAbsolute = root.isAbsolute := by
    rw [Bool.eq_iff_iff, Path.isAbsolute_iff, Path.isAbsolute_iff, hpath]
    cases root.components with
    | nil => cases names <;> simp
    | cons first rest => simp
  have hactual := resolveFrom_of_resolve hresult
  rw [startOf_congr habsolute, h.current, hsplit] at hactual
  rcases h.resolveFrom_cases (hfree.below htarget) hother hroot hactual with
    hastray | ⟨links, hbelow⟩
  · -- The parts after those of the root are not all empty.
    exact absurd (hmore.symm.trans hastray.filter_eq_nil) hne
  · have hisName : ∀ name ∈ more.filter leadsOn, IsName name := by
      rw [hmore]
      exact fun name hname => isName_of_isEntry (hnames name hname)
    have hcases := resolveFrom_names (h.linkFree hfree) hisName hbelow
    rw [hmore] at hcases
    rcases hcases with hfound | ⟨directory, name, closed, hmissing, hplace, hnone⟩
    · exact .inl hfound
    · exact .inr ⟨directory, name, closed, hmissing, hplace, hplace ▸ hnone⟩

/-- Where the beginning of the path of the root can lead after a change: if something is missing
there, it is in the changed part. -/
theorem Changes.prefix_of_resolve_eq_missing (h : Changes target fs fs')
    (hroot : fs.Leads root base) (hfree : fs.LinkFree target) (hpath : path.components <+: root.components)
    (hne : path.components ≠ []) {directory : Location} {name : String} {closed : Bool}
    (hresult : fs'.resolve follow path = .ok (.missing directory name closed)) :
    target <+: directory ++ [name] := by
  obtain ⟨rest, hrest⟩ := hpath
  have hparts : (parts root.text).filter leadsOn =
      (parts path.text).filter leadsOn ++ rest.filterMap Component.part? := by
    rw [Path.filter_parts, ← hrest, List.filterMap_append, Path.filter_parts]
  obtain ⟨before, after, hsplit, hbefore, _⟩ := List.filter_eq_append_iff.mp hparts
  have habsolute : path.isAbsolute = root.isAbsolute := by
    obtain ⟨first, more, hfirst⟩ := List.exists_cons_of_ne_nil hne
    rw [Bool.eq_iff_iff, Path.isAbsolute_iff, Path.isAbsolute_iff, ← hrest, hfirst]
    rfl
  have hactual := resolveFrom_of_resolve hresult
  rw [startOf_congr habsolute, h.current, ← List.append_nil (parts path.text)] at hactual
  rw [Leads, hsplit] at hroot
  obtain ⟨above, habove, _⟩ := exists_resolveFrom_of_append hroot
  rcases h.resolveFrom_cases hfree hbefore.symm habove hactual with hastray | ⟨links, hend⟩
  · exact hastray.1
  · rw [resolveFrom] at hend
    cases hend

end Below

end TokenAudit.FileSystem
