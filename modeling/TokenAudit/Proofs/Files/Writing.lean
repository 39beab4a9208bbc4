import TokenAudit.Proofs.Audit.Sequence
import TokenAudit.Proofs.Files.Sources
import TokenAudit.Proofs.Files.Spelling

/-!
# Paths after a file is written

A file is written in place of a file, or where nothing was. A path that led somewhere leads there
afterwards, and a path that ended where the file is now leads to the file. So what is written by a
path is read by it, also after other files have been written. The path of a run store stands for the
location that it stood for, unless it goes through the new file, as a link may do.

## Main definitions

* `FileSystem.TakesFile`: the places where a file can be written.

## Main results

* `FileSystem.walk_set_cases`: a walk after a file has been written where nothing was.
* `FileSystem.TakesFile.resolve_set`: a path that led somewhere still leads there.
* `FileSystem.of_writeContent_eq_ok`: a path leads to what is written by it.
* `FileSystem.TakesFile.storeLocation?_set`: where a run store is after a file has been written.
* `FileSystem.storeLocation?_set_of_missing`: where it is after its own file has been written.
-/

namespace TokenAudit.FileSystem

variable {fs after : FileSystem} {place location other : Location} {content : Content}
  {follow : Bool} {steps : List String} {links : Nat} {path : Path}

/-- There is a file at the place, or nothing. -/
def TakesFile (fs : FileSystem) (place : Location) : Prop :=
  fs.get? place = none ∨ ∃ content, fs.get? place = some (.file content)

namespace TakesFile

theorem ne_nil (h : fs.TakesFile place) : place ≠ [] := by
  rintro rfl
  rcases h with hnone | ⟨_, hfile⟩
  · cases hnone
  · cases hfile

/-- Directories and links are elsewhere. -/
theorem get?_set (h : fs.TakesFile place) {node : Node} (hnode : fs.get? other = some node)
    (hfile : ∀ content, node ≠ .file content) :
    (fs.set place (.file content)).get? other = some node := by
  rw [fs.get?_set_of_ne, hnode]
  rintro rfl
  rcases h with hnone | ⟨content, hcontent⟩
  · rw [hnone] at hnode
    cases hnode
  · rw [hcontent] at hnode
    exact hfile content (Option.some.inj hnode).symm

end TakesFile

/-! ## Walks -/

/-- A walk after a file has been written where nothing was. It goes as before, or comes to the file
where it ended, or it does not get past the file where it failed or ended before a separator. -/
theorem walk_set_cases (hmissing : fs.get? place = none) (content : Content) (follow : Bool)
    (location : Location) (steps : List String) :
    (fs.set place (.file content)).walk follow location steps = fs.walk follow location steps ∨
    (∃ directory name, directory ++ [name] = place ∧
      fs.walk follow location steps = .ended (.missing directory name false) ∧
      (fs.set place (.file content)).walk follow location steps = .ended (.found place)) ∨
    ((fs.walk follow location steps = .failed .notFound ∨
        ∃ directory name, fs.walk follow location steps = .ended (.missing directory name true)) ∧
      (fs.set place (.file content)).walk follow location steps = .failed .notDirectory) := by
  have htakes : fs.TakesFile place := .inl hmissing
  have hplace : (fs.set place (.file content)).get? place = some (.file content) :=
    fs.get?_set_self htakes.ne_nil
  induction steps generalizing location with
  | nil => exact .inl rfl
  | cons part rest ih =>
    by_cases hdir : fs.get? location = some .dir
    · have hdir' : (fs.set place (.file content)).get? location = some .dir :=
        htakes.get?_set hdir (by simp)
      rcases part_cases part with hstay | rfl | hname
      · rw [walk_cons_of_not_leadsOn hdir hstay, walk_cons_of_not_leadsOn hdir' hstay]
        exact ih location
      · rw [walk_cons_up hdir, walk_cons_up hdir']
        exact ih location.dropLast
      · rw [walk_cons_of_isName hdir hname, walk_cons_of_isName hdir' hname]
        by_cases hlong : 255 < part.utf8ByteSize
        · exact .inl (by rw [if_pos hlong, if_pos hlong])
        · rw [if_neg hlong, if_neg hlong]
          -- The two walks part at the new file only, and there nothing but an end can follow.
          by_cases hend : location ++ [part] = place
          · rw [hend, hmissing, hplace]
            cases rest with
            | nil => exact .inr (.inl ⟨location, part, hend, rfl, rfl⟩)
            | cons next rest =>
              refine .inr (.inr ⟨?_, walk_cons_of_ne_dir (by simp [hplace])⟩)
              dsimp only
              split
              · exact .inr ⟨location, part, rfl⟩
              · exact .inl rfl
          · rw [fs.get?_set_of_ne hend]
            cases fs.get? (location ++ [part]) with
            | none => exact .inl rfl
            | some node =>
              cases node with
              | link target => exact .inl rfl
              | dir => exact ih _
              | file old => exact ih _
    · have hdir' : (fs.set place (.file content)).get? location ≠ some .dir := by
        by_cases hat : location = place
        · simp [hat, hplace]
        · rwa [fs.get?_set_of_ne hat]
      exact .inl (by rw [walk_cons_of_ne_dir hdir, walk_cons_of_ne_dir hdir'])

/-- A walk that came to something, or to a link, does so after a file has been written. -/
theorem TakesFile.walk_set_eq (h : fs.TakesFile place) (content : Content)
    (hfailed : ∀ error, fs.walk follow location steps ≠ .failed error)
    (hmissing : ∀ directory name closed,
      fs.walk follow location steps ≠ .ended (.missing directory name closed)) :
    (fs.set place (.file content)).walk follow location steps =
      fs.walk follow location steps := by
  rcases h with hnone | ⟨old, hfile⟩
  · rcases walk_set_cases hnone content follow location steps with
      hsame | ⟨_, _, _, hended, _⟩ | ⟨hfail | ⟨_, _, hended⟩, _⟩
    · exact hsame
    · exact absurd hended (hmissing _ _ _)
    · exact absurd hfail (hfailed _)
    · exact absurd hended (hmissing _ _ _)
  · exact ((sameTree_set hfile).walk_eq follow location steps).symm

/-! ## Paths -/

/-- Steps that led somewhere still lead there. -/
theorem TakesFile.resolveFrom_set (h : fs.TakesFile place) (content : Content) {target : Location}
    (hfound : fs.resolveFrom follow links location steps = .ok (.found target)) :
    (fs.set place (.file content)).resolveFrom follow links location steps =
      .ok (.found target) := by
  induction links using Nat.strongRecOn generalizing location steps with
  | ind links ih =>
    rw [resolveFrom] at hfound ⊢
    cases hbefore : fs.walk follow location steps with
    | failed error =>
      rw [hbefore] at hfound
      cases hfound
    | ended result =>
      rw [hbefore] at hfound
      cases hfound
      rw [h.walk_set_eq content (by simp [hbefore]) (by simp [hbefore]), hbefore]
    | link directory text rest =>
      rw [hbefore] at hfound
      rw [h.walk_set_eq content (by simp [hbefore]) (by simp [hbefore]), hbefore]
      cases links with
      | zero => cases hfound
      | succ links => exact ih links (Nat.lt_succ_self links) hfound

theorem TakesFile.leads_set (h : fs.TakesFile place) (content : Content) {target : Location}
    (hleads : fs.Leads path target) : (fs.set place (.file content)).Leads path target :=
  h.resolveFrom_set content hleads

/-- Steps that ended at a missing name lead to the file that is written there. -/
theorem resolveFrom_set_of_missing (content : Content) {directory : Location} {name : String}
    (hmissing : fs.resolveFrom follow links location steps =
      .ok (.missing directory name false)) :
    (fs.set (directory ++ [name]) (.file content)).resolveFrom follow links location steps =
      .ok (.found (directory ++ [name])) := by
  have hnone := get?_eq_none_of_resolveFrom hmissing
  have htakes : fs.TakesFile (directory ++ [name]) := .inl hnone
  induction links using Nat.strongRecOn generalizing location steps with
  | ind links ih =>
    rw [resolveFrom] at hmissing ⊢
    cases hbefore : fs.walk follow location steps with
    | failed error =>
      rw [hbefore] at hmissing
      cases hmissing
    | ended result =>
      rw [hbefore] at hmissing
      cases hmissing
      rcases walk_set_cases hnone content follow location steps with
        hsame | ⟨_, _, _, _, hfound⟩ | ⟨hfail | ⟨_, _, hclosed⟩, _⟩
      · -- The name is not missing any more.
        rw [hbefore] at hsame
        obtain ⟨_, _, _, _, _, _, hgone, _⟩ := of_walk_eq_missing hsame
        rw [fs.get?_set_self htakes.ne_nil] at hgone
        cases hgone
      · rw [hfound]
      · rw [hbefore] at hfail
        cases hfail
      · rw [hbefore] at hclosed
        cases hclosed
    | link target text rest =>
      rw [hbefore] at hmissing
      rw [htakes.walk_set_eq content (by simp [hbefore]) (by simp [hbefore]), hbefore]
      cases links with
      | zero => cases hmissing
      | succ links => exact ih links (Nat.lt_succ_self links) hmissing

/-- Whether a path is refused for how it is written does not depend on the files. -/
theorem resolve_congr {fs' : FileSystem} {result result' : Resolved}
    (hresolve : fs.resolve follow path = .ok result)
    (hfrom : fs'.resolveFrom follow maxLinks (startOf path.text fs'.current) (parts path.text) =
      .ok result') : fs'.resolve follow path = .ok result' := by
  rw [resolve] at hresolve ⊢
  split at hresolve
  · cases hresolve
  · next hzero =>
    rw [if_neg hzero]
    split at hresolve
    · cases hresolve
    · next hempty =>
      rw [if_neg hempty]
      split at hresolve
      · cases hresolve
      · next hlong => rw [if_neg hlong, hfrom]

/-- A path that led somewhere still leads there. -/
theorem TakesFile.resolve_set (h : fs.TakesFile place) (content : Content) {target : Location}
    (hfound : fs.resolve follow path = .ok (.found target)) :
    (fs.set place (.file content)).resolve follow path = .ok (.found target) :=
  resolve_congr hfound (h.resolveFrom_set content (resolveFrom_of_resolve hfound))

/-- A path leads to what is written by it. -/
theorem of_writeContent_eq_ok (h : fs.writeContent path content = .ok after) :
    ∃ place, fs.TakesFile place ∧ after = fs.set place (.file content) ∧
      after.resolve true path = .ok (.found place) := by
  obtain ⟨target, hresolve, hwrite⟩ := bind_eq_ok_iff.mp h
  cases target with
  | found place =>
    dsimp only at hwrite
    split at hwrite
    · next old hfile =>
      cases hwrite
      have htakes : fs.TakesFile place := .inr ⟨old, hfile⟩
      exact ⟨place, htakes, rfl, htakes.resolve_set content hresolve⟩
    · cases hwrite
  | missing directory name closed =>
    cases closed with
    | true => cases hwrite
    | false =>
      cases hwrite
      have hfrom := resolveFrom_of_resolve hresolve
      exact ⟨directory ++ [name], .inl (get?_eq_none_of_resolveFrom hfrom), rfl,
        resolve_congr hresolve (resolveFrom_set_of_missing content hfrom)⟩

/-- A text is read by a path that leads to it. -/
theorem readText_of_resolve {text : String} (hresolve : fs.resolve true path = .ok (.found place))
    (hfile : fs.get? place = some (.file (.ofText text))) : fs.readText path = .ok text := by
  have hnode : fs.node path = .ok (.file (.ofText text)) := by
    simp [node, locate, hresolve, hfile, bind, Except.bind, pure, Except.pure]
  have hcontent : fs.readContent path = .ok (.ofText text) := by
    simp [readContent, hnode, bind, Except.bind, pure, Except.pure]
  have htext : (Content.ofText text).text? = some text := Content.text?_eq_some_iff.mpr rfl
  simp [readText, hcontent, htext, bind, Except.bind, pure, Except.pure]

/-! ## Run stores -/

/-- A path is spelled out as before, or it goes through the new file. -/
theorem spell?_set_cases (hmissing : fs.get? place = none) (content : Content)
    (location : Location) (steps : List String) :
    (fs.set place (.file content)).spell? location steps = fs.spell? location steps ∨
      (fs.set place (.file content)).spell? location steps = none := by
  have htakes : fs.TakesFile place := .inl hmissing
  induction steps generalizing location with
  | nil => exact .inl rfl
  | cons part rest ih =>
    rw [spell?, spell?]
    split
    · exact ih location
    · split
      · exact ih location.dropLast
      · rcases walk_set_cases hmissing content false [] (location ++ [part]) with
          hsame | ⟨directory, name, hplace, hended, hfound⟩ | ⟨_, hfailed⟩
        · rw [hsame]
          cases fs.walk false [] (location ++ [part]) with
          | link directory target left => exact .inl rfl
          | failed error =>
            cases error with
            | notFound => exact ih _
            | _ => exact .inl rfl
          | ended target =>
            cases target with
            | missing directory name closed => exact ih _
            | found there =>
              dsimp only
              by_cases hat : there = place
              · rw [hat, hmissing, fs.get?_set_self htakes.ne_nil]
                exact ih _
              · rw [fs.get?_set_of_ne hat]
                rcases fs.get? there with _ | _ | _ | target
                · exact ih _
                · exact ih _
                · exact ih _
                · exact .inl rfl
        · -- What was missing is a file now, and both are gone through.
          rw [hended, hfound]
          dsimp only
          rw [fs.get?_set_self htakes.ne_nil]
          exact ih _
        · rw [hfailed]
          exact .inr rfl

theorem spellFrom?_set_cases (hmissing : fs.get? place = none) (content : Content) (links : Nat)
    (location : Location) (steps : List String) :
    (fs.set place (.file content)).spellFrom? links location steps =
        fs.spellFrom? links location steps ∨
      (fs.set place (.file content)).spellFrom? links location steps = none := by
  induction links generalizing location steps with
  | zero =>
    rw [spellFrom?, spellFrom?]
    rcases spell?_set_cases hmissing content location steps with hsame | hnone
    · exact .inl (by rw [hsame])
    · exact .inr (by rw [hnone])
  | succ links ih =>
    rw [spellFrom?, spellFrom?]
    rcases spell?_set_cases hmissing content location steps with hsame | hnone
    · rw [hsame]
      rcases fs.spell? location steps with _ | ⟨next, _ | ⟨target, rest⟩⟩
      · exact .inl rfl
      · exact .inl rfl
      · exact ih _ _
    · exact .inr (by rw [hnone])

/-- The path of a run store stands for the location that it stood for before a file was written, or
for none. -/
theorem TakesFile.storeLocation?_set (h : fs.TakesFile place) (content : Content) {text : String}
    (hlocation : (fs.set place (.file content)).storeLocation? text = some location) :
    fs.storeLocation? text = some location := by
  rcases h with hmissing | ⟨old, hfile⟩
  · rw [storeLocation?] at hlocation ⊢
    rcases spellFrom?_set_cases hmissing content maxStoreLinks (startOf text fs.current)
      (parts text) with hsame | hnone
    · rw [← hsame]
      exact hlocation
    · change ((fs.set place (.file content)).spellFrom? maxStoreLinks (startOf text fs.current)
        (parts text) >>= _) = _ at hlocation
      rw [hnone] at hlocation
      cases hlocation
  · rwa [(sameTree_set hfile).storeLocation?_eq]

/-! ## Files that were missing -/

section Missing

variable {directory : Location} {name : String} {closed : Bool}

/-- A walk to a place that ended because nothing was there comes to the file that is written there. -/
theorem walk_set_of_missing (hplace : IsPlace place)
    (hwalk : fs.walk follow [] place = .ended (.missing directory name closed))
    (content : Content) :
    (fs.set place (.file content)).walk follow [] place = .ended (.found place) := by
  obtain ⟨hnone, rfl⟩ := of_walk_eq_missing_of_isPlace hplace hwalk
  rcases walk_set_cases hnone content follow [] place with
    hsame | ⟨_, _, _, _, hfound⟩ | ⟨hfailed | ⟨_, _, hclosed⟩, _⟩
  · have hgone := (of_walk_eq_missing_of_isPlace hplace (hsame.trans hwalk)).1
    rw [fs.get?_set_self (TakesFile.ne_nil (.inl hnone))] at hgone
    cases hgone
  · exact hfound
  · rw [hwalk] at hfailed
    cases hfailed
  · rw [hwalk] at hclosed
    cases hclosed

theorem Reached.set (h : fs.Reached location) (htakes : fs.TakesFile place) (content : Content) :
    (fs.set place (.file content)).Reached location where
  isPlace := h.isPlace
  short := h.short
  dir := fun front hfront => htakes.get?_set (h.dir front hfront) (by simp)

end Missing

end TokenAudit.FileSystem
