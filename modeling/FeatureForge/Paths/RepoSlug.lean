import FeatureForge.Paths.BranchKey

/-!
# Where the state of a repository is kept

`derive_repo_slug`: the owner and the name of a repository, read off its remote URL and joined
by a dash.  `repo_slug_iff` tells which URLs share a slug: those of one repository that show the
same name, and those of two where the dash falls at another place.
-/

namespace FeatureForge

/-! ### The slug -/

def dotGit : List Char := ['.', 'g', 'i', 't']

def isUrlSeparator (c : Char) : Bool := c = '/' || c = ':'

/-- The parts of a URL that are not empty. -/
def urlParts (url : List Char) : List (List Char) :=
  (url.splitOnP isUrlSeparator).filter fun part => part ≠ []

def slugFromRemote (remoteUrl : List Char) : Option (List Char) :=
  match (urlParts (trimEndText dotGit remoteUrl)).reverse with
  | repo :: owner :: _ => some (owner ++ '-' :: repo)
  | _ => none

/-- The root of a repository: its path, and the last component of it. -/
structure RepoRoot where
  path : List Char
  fileName : Option (List Char)

def deriveRepoSlug (sha : Sha256Hex) (repoRoot : RepoRoot) (remoteUrl : Option (List Char)) :
    List Char :=
  (remoteUrl.bind slugFromRemote).getD
    (repoRoot.fileName.getD "repo".toList ++ '-' :: keyDigest sha repoRoot.path)

/-! ### What lies under a slug -/

def harnessEventsLogPath (sha : Sha256Hex) (stateDir : Components)
    (repoSlug branchName : List Char) : Components :=
  harnessBranchRoot sha stateDir repoSlug branchName ++ ["events.jsonl".toList]

def harnessEventsLockPath (sha : Sha256Hex) (stateDir : Components)
    (repoSlug branchName : List Char) : Components :=
  harnessBranchRoot sha stateDir repoSlug branchName ++ ["events.lock".toList]

/-- The directory of `canonical_approval_path`. -/
def approvalDirectory (stateDir : Components) (repoSlug userName safeBranch : List Char) :
    Components :=
  stateDir ++ ["repo-safety".toList, "approvals".toList, repoSlug, userName ++ '-' :: safeBranch]

/-! ### Remote URLs -/

/-- A repository of a host. -/
structure RemoteRepo where
  owner : List Char
  repo : List Char
  owner_ne : owner ≠ []
  owner_part : ∀ c ∈ owner, isUrlSeparator c = false
  /-- no repository is called `.git` -/
  repo_ne : trimEndText dotGit repo ≠ []
  repo_part : ∀ c ∈ repo, isUrlSeparator c = false

inductive UrlForm where
  | https
  | ssh
  | scp
  deriving DecidableEq

/-- How a URL is spelled: its form, and what it ends with. -/
structure UrlSpelling where
  form : UrlForm
  gitSuffix : Bool
  slash : Bool
  deriving DecidableEq

def UrlForm.start (host : List Char) : UrlForm → List Char
  | .https => "https://".toList ++ host ++ ['/']
  | .ssh => "ssh://git@".toList ++ host ++ ['/']
  | .scp => "git@".toList ++ host ++ [':']

def UrlSpelling.url (u : UrlSpelling) (host : List Char) (r : RemoteRepo) : List Char :=
  u.form.start host ++ (r.owner ++ '/' :: (r.repo ++ (if u.gitSuffix then dotGit else []))) ++
    (if u.slash then ['/'] else [])

/-- The name of the repository as a URL shows it: the suffix counts for part of the name where
a slash stands behind it, and what is left of a name that ends like the suffix counts for less
where none does. -/
def UrlSpelling.shownName (u : UrlSpelling) (r : RemoteRepo) : List Char :=
  if u.slash then r.repo ++ (if u.gitSuffix then dotGit else []) else trimEndText dotGit r.repo

/-! ### Trimming -/

theorem trimStartMatches_go {p : List Char} (hp : p ≠ []) : ∀ (m n : Nat) (s : List Char),
    s.length ≤ m → s.length ≤ n → trimStartMatches.go p m s = trimStartMatches.go p n s := by
  intro m
  induction m with
  | zero =>
    intro n s hm _
    rw [List.length_eq_zero_iff.mp (Nat.le_zero.mp hm)]
    cases n with
    | zero => rfl
    | succ n =>
      rw [trimStartMatches.go, trimStartMatches.go, if_neg]
      rintro ⟨_, hstarts⟩
      exact hp (List.eq_nil_of_prefix_nil (List.isPrefixOf_iff_prefix.mp hstarts))
  | succ m ih =>
    intro n s hm hn
    cases n with
    | zero =>
      rw [List.length_eq_zero_iff.mp (Nat.le_zero.mp hn), trimStartMatches.go, trimStartMatches.go,
        if_neg]
      rintro ⟨_, hstarts⟩
      exact hp (List.eq_nil_of_prefix_nil (List.isPrefixOf_iff_prefix.mp hstarts))
    | succ n =>
      rw [trimStartMatches.go, trimStartMatches.go]
      by_cases hstarts : p ≠ [] ∧ startsWith p s
      · rw [if_pos hstarts, if_pos hstarts]
        have hpos : 0 < p.length := List.length_pos_iff.mpr hp
        refine ih n _ ?_ ?_ <;> rw [List.length_drop] <;> omega
      · rw [if_neg hstarts, if_neg hstarts]

/-- `trim_start_matches` cuts off one text and goes on. -/
theorem trimStartMatches_append {p : List Char} (hp : p ≠ []) (s : List Char) :
    trimStartMatches p (p ++ s) = trimStartMatches p s := by
  have hstarts : p ≠ [] ∧ startsWith p (p ++ s) = true :=
    ⟨hp, List.isPrefixOf_iff_prefix.mpr (List.prefix_append p s)⟩
  have hpos : 0 < p.length := List.length_pos_iff.mpr hp
  have hgo : trimStartMatches p (p ++ s) =
      trimStartMatches.go p ((p ++ s).length - 1 + 1) (p ++ s) := by
    rw [trimStartMatches]
    congr 1
    rw [List.length_append]
    omega
  rw [hgo, trimStartMatches.go, if_pos hstarts, List.drop_left, trimStartMatches]
  refine trimStartMatches_go hp _ _ s ?_ le_rfl
  rw [List.length_append]
  omega

theorem trimStartMatches_of_not {p s : List Char} (h : startsWith p s = false) :
    trimStartMatches p s = s := by
  rw [trimStartMatches]
  cases s.length with
  | zero => rfl
  | succ n =>
    rw [trimStartMatches.go, if_neg]
    rintro ⟨_, hstarts⟩
    rw [h] at hstarts
    cases hstarts

/-- A character that the text does not have ends the trimming. -/
theorem startsWith_append_cons {p : List Char} {c : Char} (hc : c ∉ p) (s t : List Char) :
    startsWith p (s ++ c :: t) = startsWith p s := by
  rw [Bool.eq_iff_iff, startsWith, startsWith, List.isPrefixOf_iff_prefix,
    List.isPrefixOf_iff_prefix]
  refine ⟨fun ⟨r, hr⟩ => ?_, fun h => h.trans (List.prefix_append _ _)⟩
  rcases List.append_eq_append_iff.mp hr with ⟨rest, hs, _⟩ | ⟨rest, hp, hrest⟩
  · exact ⟨rest, hs.symm⟩
  · cases rest with
    | nil =>
      have heq : p = s := hp.trans (List.append_nil s)
      exact heq ▸ List.prefix_rfl
    | cons d rest =>
      rw [(List.cons.inj hrest).1] at hc
      exact absurd (hp ▸ List.mem_append_right s List.mem_cons_self) hc

theorem trimStartMatches_append_cons {p : List Char} (hp : p ≠ []) {c : Char} (hc : c ∉ p)
    (t : List Char) : ∀ (n : Nat) (s : List Char), s.length ≤ n →
      trimStartMatches p (s ++ c :: t) = trimStartMatches p s ++ c :: t := by
  intro n
  induction n with
  | zero =>
    intro s hs
    rw [List.length_eq_zero_iff.mp (Nat.le_zero.mp hs)]
    refine trimStartMatches_of_not ?_
    rw [startsWith_append_cons hc, Bool.eq_false_iff]
    exact fun h => hp (List.eq_nil_of_prefix_nil (List.isPrefixOf_iff_prefix.mp h))
  | succ n ih =>
    intro s hs
    cases hstarts : startsWith p s with
    | false =>
      rw [trimStartMatches_of_not hstarts, trimStartMatches_of_not]
      rw [startsWith_append_cons hc, hstarts]
    | true =>
      obtain ⟨rest, rfl⟩ := List.isPrefixOf_iff_prefix.mp hstarts
      have hpos : 0 < p.length := List.length_pos_iff.mpr hp
      have hrest : rest.length ≤ n := by
        rw [List.length_append] at hs
        omega
      rw [List.append_assoc, trimStartMatches_append hp, trimStartMatches_append hp, ih rest hrest]

/-- A suffix is cut off behind a character that it does not have. -/
theorem trimEndText_append_cons {p : List Char} (hp : p ≠ []) {c : Char} (hc : c ∉ p)
    (s t : List Char) : trimEndText p (s ++ c :: t) = s ++ c :: trimEndText p t := by
  have hreverse : (s ++ c :: t).reverse = t.reverse ++ c :: s.reverse := by simp
  rw [trimEndText, hreverse, trimStartMatches_append_cons (by simpa using hp) (by simpa using hc) _
    _ _ le_rfl, trimEndText]
  simp

theorem trimEndText_append {p : List Char} (hp : p ≠ []) (s : List Char) :
    trimEndText p (s ++ p) = trimEndText p s := by
  rw [trimEndText, List.reverse_append, trimStartMatches_append (by simpa using hp), trimEndText]

/-! ### Reading a URL -/

theorem urlParts_append_cons {c : Char} (hc : isUrlSeparator c = true) (s t : List Char) :
    urlParts (s ++ c :: t) = urlParts s ++ urlParts t := by
  rw [urlParts, List.splitOnP_append_cons s t hc, List.filter_append, ← urlParts, ← urlParts]

theorem urlParts_part {part : List Char} (hne : part ≠ [])
    (hpart : ∀ c ∈ part, isUrlSeparator c = false) : urlParts part = [part] := by
  rw [urlParts, List.splitOnP_eq_singleton hpart, List.filter_cons_of_pos (by simpa using hne),
    List.filter_nil]

theorem trimStartMatches_suffix (p s : List Char) : trimStartMatches p s <:+ s := by
  have hgo : ∀ (n : Nat) (s : List Char), trimStartMatches.go p n s <:+ s := by
    intro n
    induction n with
    | zero => exact fun s => List.suffix_rfl
    | succ n ih =>
      intro s
      rw [trimStartMatches.go]
      split_ifs
      · exact (ih _).trans (List.drop_suffix _ _)
      · exact List.suffix_rfl
  exact hgo _ s

theorem mem_of_mem_trimEndText {p s : List Char} {c : Char} (h : c ∈ trimEndText p s) : c ∈ s := by
  have hmem := (trimStartMatches_suffix p.reverse s.reverse).mem (List.mem_reverse.mp h)
  exact List.mem_reverse.mp hmem

/-- What a URL shows of a repository is one part of the URL. -/
theorem UrlSpelling.shownName_part (u : UrlSpelling) (r : RemoteRepo) :
    u.shownName r ≠ [] ∧ ∀ c ∈ u.shownName r, isUrlSeparator c = false := by
  have hrepo : r.repo ≠ [] := fun hnil => r.repo_ne (by rw [hnil]; rfl)
  have hsuffix : ∀ c ∈ (if u.gitSuffix then dotGit else []), isUrlSeparator c = false := by
    cases u.gitSuffix <;> exact forall_mem_of_all (by decide)
  unfold UrlSpelling.shownName
  cases u.slash with
  | true =>
    rw [if_pos rfl]
    refine ⟨fun hnil => hrepo (List.append_eq_nil_iff.mp hnil).1, fun c hc => ?_⟩
    rcases List.mem_append.mp hc with hc | hc
    · exact r.repo_part c hc
    · exact hsuffix c hc
  | false =>
    rw [if_neg Bool.false_ne_true]
    exact ⟨r.repo_ne, fun c hc => r.repo_part c (mem_of_mem_trimEndText hc)⟩

/-- Where a URL comes to its owner. -/
theorem UrlForm.exists_start (form : UrlForm) (host : List Char) :
    ∃ s c, isUrlSeparator c = true ∧ form.start host = s ++ [c] := by
  cases form
  · exact ⟨_, '/', rfl, rfl⟩
  · exact ⟨_, '/', rfl, rfl⟩
  · exact ⟨_, ':', rfl, rfl⟩

/-- What the slug is read from. -/
theorem UrlSpelling.trimmed_url (u : UrlSpelling) (host : List Char) (r : RemoteRepo) :
    trimEndText dotGit (u.url host r) = u.form.start host ++ (r.owner ++ '/' :: u.shownName r) ++
      (if u.slash then ['/'] else []) := by
  have hgit : dotGit ≠ [] := by decide
  have hslash : '/' ∉ dotGit := by decide
  unfold UrlSpelling.url UrlSpelling.shownName
  cases hu : u.slash with
  | true =>
    rw [if_pos rfl, if_pos rfl, trimEndText_append_cons hgit hslash]
    rfl
  | false =>
    rw [if_neg Bool.false_ne_true, if_neg Bool.false_ne_true, List.append_nil, List.append_nil,
      ← List.append_assoc, trimEndText_append_cons hgit hslash]
    cases u.gitSuffix with
    | true => rw [if_pos rfl, trimEndText_append hgit, List.append_assoc]
    | false => rw [if_neg Bool.false_ne_true, List.append_nil, List.append_assoc]

/-- **A URL is read** as its owner and the name it shows. -/
theorem UrlSpelling.slugFromRemote_url (u : UrlSpelling) (host : List Char) (r : RemoteRepo) :
    slugFromRemote (u.url host r) = some (r.owner ++ '-' :: u.shownName r) := by
  obtain ⟨s, c, hc, hstart⟩ := u.form.exists_start host
  obtain ⟨hshown, hpart⟩ := u.shownName_part r
  have hparts : urlParts (s ++ c :: (r.owner ++ '/' :: u.shownName r)) =
      urlParts s ++ [r.owner, u.shownName r] := by
    rw [urlParts_append_cons hc, urlParts_append_cons (c := '/') rfl,
      urlParts_part r.owner_ne r.owner_part, urlParts_part hshown hpart]
    rfl
  have hall : urlParts (trimEndText dotGit (u.url host r)) =
      urlParts s ++ [r.owner, u.shownName r] := by
    rw [u.trimmed_url, hstart, List.append_assoc s, List.singleton_append]
    cases u.slash with
    | true =>
      rw [if_pos rfl, urlParts_append_cons (c := '/') rfl, hparts]
      exact List.append_nil _
    | false => rw [if_neg Bool.false_ne_true, List.append_nil, hparts]
  rw [slugFromRemote, hall, List.reverse_append]
  rfl

theorem UrlSpelling.deriveRepoSlug_url (sha : Sha256Hex) (repoRoot : RepoRoot) (u : UrlSpelling)
    (host : List Char) (r : RemoteRepo) :
    deriveRepoSlug sha repoRoot (some (u.url host r)) = r.owner ++ '-' :: u.shownName r := by
  rw [deriveRepoSlug, Option.bind_some, u.slugFromRemote_url, Option.getD_some]

/-! ### Which URLs share a slug -/

/-- The owner of the second repository begins with that of the first and a dash, and the name of
the first ends with a dash and that of the second. -/
def DashShift (owner name owner' name' : List Char) : Prop :=
  ∃ rest, owner' = owner ++ '-' :: rest ∧ name = rest ++ '-' :: name'

theorem slug_eq_iff {owner name owner' name' : List Char} :
    owner ++ '-' :: name = owner' ++ '-' :: name' ↔
      (owner = owner' ∧ name = name') ∨ DashShift owner name owner' name' ∨
        DashShift owner' name' owner name := by
  constructor
  · intro h
    rcases List.append_eq_append_iff.mp h with ⟨rest, howner, hname⟩ | ⟨rest, howner, hname⟩
    · cases rest with
      | nil => exact Or.inl ⟨by rw [howner, List.append_nil], (List.cons.inj hname).2⟩
      | cons d rest =>
        obtain ⟨rfl, hrest⟩ := List.cons.inj hname
        exact Or.inr (Or.inl ⟨rest, howner, hrest⟩)
    · cases rest with
      | nil => exact Or.inl ⟨by rw [howner, List.append_nil], (List.cons.inj hname).2.symm⟩
      | cons d rest =>
        obtain ⟨rfl, hrest⟩ := List.cons.inj hname
        exact Or.inr (Or.inr ⟨rest, howner, hrest⟩)
  · rintro (⟨rfl, rfl⟩ | ⟨rest, rfl, rfl⟩ | ⟨rest, rfl, rfl⟩)
    · rfl
    · simp
    · simp

/-! ### Paths under a slug -/

theorem slug_not_dots (owner name : List Char) :
    owner ++ '-' :: name ≠ ['.'] ∧ owner ++ '-' :: name ≠ ['.', '.'] := by
  have hmem : '-' ∈ owner ++ '-' :: name := List.mem_append_right _ List.mem_cons_self
  constructor <;> intro h <;> rw [h] at hmem <;> exact absurd hmem (by decide)

/-- The paths of a branch behind those of its repository. -/
theorem resolve_underSlug (sha : Sha256Hex) (stateDir : Components) (branchName : List Char)
    {file : List Char} (hfile : file ≠ ['.'] ∧ file ≠ ['.', '.']) :
    ∃ rest : Components, ∀ slug : List Char, slug ≠ ['.'] → slug ≠ ['.', '.'] →
      resolve (harnessBranchRoot sha stateDir slug branchName ++ [file]) =
        resolve stateDir ++ "projects".toList :: slug :: rest := by
  have hname : ∀ (d : Components) {c : List Char}, c ≠ ['.'] → c ≠ ['.', '.'] →
      enterComponent d c = d ++ [c] := by
    intro d c hdot hdots
    rw [enterComponent, if_neg hdot, if_neg hdots]
  -- the key of a branch may be a dot or two
  have hkey : ∃ rest : Components, ∀ d : Components,
      enterComponent (d ++ ["branches".toList]) (branchStorageKey sha branchName) = d ++ rest := by
    by_cases hdot : branchStorageKey sha branchName = ['.']
    · exact ⟨["branches".toList], fun d => by rw [enterComponent, if_pos hdot]⟩
    · by_cases hdots : branchStorageKey sha branchName = ['.', '.']
      · refine ⟨[], fun d => ?_⟩
        rw [enterComponent, if_neg hdot, if_pos hdots, List.dropLast_concat, List.append_nil]
      · refine ⟨["branches".toList, branchStorageKey sha branchName], fun d => ?_⟩
        rw [hname _ hdot hdots, List.append_assoc]
        rfl
  obtain ⟨rest, hrest⟩ := hkey
  refine ⟨rest ++ ["execution-harness".toList, file], fun slug hdot hdots => ?_⟩
  rw [resolve, harnessBranchRoot, List.foldl_append, List.foldl_append, ← resolve]
  simp only [List.foldl_cons, List.foldl_nil]
  rw [hname _ (by decide : "projects".toList ≠ ['.']) (by decide), hname _ hdot hdots,
    hname _ (by decide : "branches".toList ≠ ['.']) (by decide), hrest,
    hname _ (by decide : "execution-harness".toList ≠ ['.']) (by decide), hname _ hfile.1 hfile.2]
  simp

theorem resolve_approvalDirectory (stateDir : Components) (userName safeBranch : List Char)
    {slug : List Char} (hdot : slug ≠ ['.']) (hdots : slug ≠ ['.', '.']) :
    resolve (approvalDirectory stateDir slug userName safeBranch) =
      resolve stateDir ++ ["repo-safety".toList, "approvals".toList, slug,
        userName ++ '-' :: safeBranch] := by
  have hname : ∀ (d : Components) {c : List Char}, c ≠ ['.'] → c ≠ ['.', '.'] →
      enterComponent d c = d ++ [c] := by
    intro d c hdot hdots
    rw [enterComponent, if_neg hdot, if_neg hdots]
  rw [resolve, approvalDirectory, List.foldl_append, ← resolve]
  simp only [List.foldl_cons, List.foldl_nil]
  rw [hname _ (by decide : "repo-safety".toList ≠ ['.']) (by decide),
    hname _ (by decide : "approvals".toList ≠ ['.']) (by decide), hname _ hdot hdots,
    hname _ (slug_not_dots userName safeBranch).1 (slug_not_dots userName safeBranch).2]
  simp

/-- Two checkouts, with the state directory, the branch and the user they share. -/
structure Checkouts where
  stateDir : Components
  branchName : List Char
  userName : List Char
  safeBranch : List Char
  root : RepoRoot
  root' : RepoRoot

/-- The event log, its lock or the approvals are under the same path. -/
def SharesState (sha : Sha256Hex) (w : Checkouts) (slug slug' : List Char) : Prop :=
  resolve (harnessEventsLogPath sha w.stateDir slug w.branchName) =
      resolve (harnessEventsLogPath sha w.stateDir slug' w.branchName) ∨
    resolve (harnessEventsLockPath sha w.stateDir slug w.branchName) =
      resolve (harnessEventsLockPath sha w.stateDir slug' w.branchName) ∨
    resolve (approvalDirectory w.stateDir slug w.userName w.safeBranch) =
      resolve (approvalDirectory w.stateDir slug' w.userName w.safeBranch)

theorem sharesState_iff (sha : Sha256Hex) (w : Checkouts) (owner name owner' name' : List Char) :
    SharesState sha w (owner ++ '-' :: name) (owner' ++ '-' :: name') ↔
      owner ++ '-' :: name = owner' ++ '-' :: name' := by
  refine ⟨fun h => ?_, fun h => Or.inl (by rw [h])⟩
  obtain ⟨hdot, hdots⟩ := slug_not_dots owner name
  obtain ⟨hdot', hdots'⟩ := slug_not_dots owner' name'
  rcases h with h | h | h
  · obtain ⟨rest, hrest⟩ := resolve_underSlug sha w.stateDir w.branchName
      (by decide : "events.jsonl".toList ≠ ['.'] ∧ "events.jsonl".toList ≠ ['.', '.'])
    rw [harnessEventsLogPath, harnessEventsLogPath, hrest _ hdot hdots, hrest _ hdot' hdots',
      List.append_cancel_left_eq] at h
    exact (List.cons.inj (List.cons.inj h).2).1
  · obtain ⟨rest, hrest⟩ := resolve_underSlug sha w.stateDir w.branchName
      (by decide : "events.lock".toList ≠ ['.'] ∧ "events.lock".toList ≠ ['.', '.'])
    rw [harnessEventsLockPath, harnessEventsLockPath, hrest _ hdot hdots, hrest _ hdot' hdots',
      List.append_cancel_left_eq] at h
    exact (List.cons.inj (List.cons.inj h).2).1
  · rw [resolve_approvalDirectory _ _ _ hdot hdots, resolve_approvalDirectory _ _ _ hdot' hdots',
      List.append_cancel_left_eq] at h
    exact (List.cons.inj (List.cons.inj (List.cons.inj h).2).2).1

/-! ### Isolation and stability -/

/-- Two remotes have slugs of their own and share no state where they are of two repositories,
and have one slug where they are of one. -/
structure SlugKeepsApart (sha : Sha256Hex) (w : Checkouts) (host : List Char) (a b : RemoteRepo)
    (u v : UrlSpelling) : Prop where
  isolated : a ≠ b →
    deriveRepoSlug sha w.root (some (u.url host a)) ≠
        deriveRepoSlug sha w.root' (some (v.url host b)) ∧
      ¬ SharesState sha w (deriveRepoSlug sha w.root (some (u.url host a)))
        (deriveRepoSlug sha w.root' (some (v.url host b)))
  stable : a = b → deriveRepoSlug sha w.root (some (u.url host a)) =
    deriveRepoSlug sha w.root' (some (v.url host b))

/-- What two remotes show: the same name of one repository; of two, not the same owner and name,
nor parts between which the dash can shift. -/
structure ShownApart (a b : RemoteRepo) (u v : UrlSpelling) : Prop where
  same : a = b → u.shownName a = v.shownName b
  other : a ≠ b → ¬ (a.owner = b.owner ∧ u.shownName a = v.shownName b) ∧
    ¬ DashShift a.owner (u.shownName a) b.owner (v.shownName b) ∧
    ¬ DashShift b.owner (v.shownName b) a.owner (u.shownName a)

/-- **Where the slug keeps repositories apart** and stays the same under another URL. -/
theorem repo_slug_iff (sha : Sha256Hex) (w : Checkouts) (host : List Char) (a b : RemoteRepo)
    (u v : UrlSpelling) : SlugKeepsApart sha w host a b u v ↔ ShownApart a b u v := by
  have hslug := u.deriveRepoSlug_url sha w.root host a
  have hslug' := v.deriveRepoSlug_url sha w.root' host b
  constructor
  · rintro ⟨hisolated, hstable⟩
    rw [hslug, hslug'] at hisolated hstable
    refine ⟨fun hab => ?_, fun hab => ?_⟩
    · have h := hstable hab
      subst hab
      exact (List.cons.inj (List.append_cancel_left h)).2
    · have h := (hisolated hab).1
      rw [ne_eq, slug_eq_iff, not_or, not_or] at h
      exact h
  · rintro ⟨hsame, hother⟩
    refine ⟨fun hab => ?_, fun hab => ?_⟩
    · have h := hother hab
      rw [← not_or, ← not_or, ← slug_eq_iff] at h
      rw [hslug, hslug', sharesState_iff]
      exact ⟨h, h⟩
    · rw [hslug, hslug', hsame hab, hab]

/-- A name that does not end like the suffix is shown as it is, unless the URL ends with both. -/
theorem UrlSpelling.shownName_plain {r : RemoteRepo} (hr : trimEndText dotGit r.repo = r.repo)
    (u : UrlSpelling) :
    u.shownName r = r.repo ++ (if u.gitSuffix ∧ u.slash then dotGit else []) := by
  unfold UrlSpelling.shownName
  cases u.slash <;> cases u.gitSuffix <;> simp [hr]

namespace SampleRemotes

def checkouts : Checkouts where
  stateDir := ["state".toList]
  branchName := "main".toList
  userName := "user".toList
  safeBranch := "main".toList
  root := ⟨"/one".toList, some "one".toList⟩
  root' := ⟨"/two".toList, some "two".toList⟩

/-- The repository `a-b/c`. -/
def dashInOwner : RemoteRepo where
  owner := "a-b".toList
  repo := "c".toList
  owner_ne := by decide
  owner_part := forall_mem_of_all (by decide)
  repo_ne := by decide
  repo_part := forall_mem_of_all (by decide)

/-- The repository `a/b-c`. -/
def dashInName : RemoteRepo where
  owner := "a".toList
  repo := "b-c".toList
  owner_ne := by decide
  owner_part := forall_mem_of_all (by decide)
  repo_ne := by decide
  repo_part := forall_mem_of_all (by decide)

def plainHttps : UrlSpelling := ⟨.https, false, false⟩

/-- The suffix, and a slash behind it. -/
def suffixAndSlash : UrlSpelling := ⟨.https, true, true⟩

end SampleRemotes

/-- `https://host/a-b/c` and `https://host/a/b-c` share their state, and the state of
`https://host/a/b-c` is not found again through `https://host/a/b-c.git/`. -/
theorem not_repo_slug :
    (¬ ∀ (sha : Sha256Hex) (w : Checkouts) (host : List Char) (a b : RemoteRepo)
        (u v : UrlSpelling), a ≠ b → SlugKeepsApart sha w host a b u v) ∧
      ¬ ∀ (sha : Sha256Hex) (w : Checkouts) (host : List Char) (a : RemoteRepo)
        (u v : UrlSpelling), SlugKeepsApart sha w host a a u v := by
  constructor
  · intro h
    have hne : SampleRemotes.dashInOwner ≠ SampleRemotes.dashInName := fun heq =>
      absurd (congrArg RemoteRepo.owner heq) (by decide)
    refine ((h SampleBranch.sha SampleRemotes.checkouts "host".toList _ _ SampleRemotes.plainHttps
      SampleRemotes.plainHttps hne).isolated hne).1 ?_
    rw [UrlSpelling.deriveRepoSlug_url, UrlSpelling.deriveRepoSlug_url]
    decide
  · intro h
    have hstable := (h SampleBranch.sha SampleRemotes.checkouts "host".toList
      SampleRemotes.dashInName SampleRemotes.plainHttps SampleRemotes.suffixAndSlash).stable rfl
    rw [UrlSpelling.deriveRepoSlug_url, UrlSpelling.deriveRepoSlug_url] at hstable
    exact absurd hstable (by decide)

end FeatureForge
