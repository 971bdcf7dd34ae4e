/-
# `KahunaOperator.ImageTag` — the release an image's tag names

`imageVersion` of `internal/controller/backup.go` cuts an image at its first `@`
and its last `:`, and matches what is left against

    ^v?(\d+)\.(\d+)\.(\d+)(?:[-+].*)?$

An image is a repository, perhaps a tag, perhaps a digest.  A colon of the
repository is a registry's port and has a slash after it, so the last colon is the
tag's or is followed by a slash (`afterLast_port`).  A number of the pattern ends
where its digits end, because a dot, a dash, a plus and the end are no digits
(`versionNumber_iff`), so the match is the only one there is.

    imageVersion = X.Y.Z   ⟺   the tag is [v]X.Y.Z[suffix]    (`image_version_grammar`)

An image without such a tag has no known version, and `backupUnsupported` lets it
through.
-/
import KahunaOperator.BackupGate
import KahunaOperator.Lib.Cut

namespace KahunaOperator

/-! ## The grammar -/

/-- A non-empty string of digits and its value. -/
structure IsNumber (ds : List Char) (n : Nat) : Prop where
  nonempty : ds ≠ []
  digits : ∀ c ∈ ds, c.isDigit = true
  value : Nat.ofDigitChars 10 ds 0 = n

/-- Nothing, or a dash or plus and more. -/
def IsSuffix (cs : List Char) : Prop :=
  cs = [] ∨ ∃ rest, cs = '-' :: rest ∨ cs = '+' :: rest

/-- An optional `v`, three numbers that fit a 64-bit `int` with dots between them, and
an optional suffix. -/
def ReleaseTag (tag : String) (x y z : Nat) : Prop :=
  ∃ v major minor patch suffix,
    tag.toList = v ++ (major ++ '.' :: (minor ++ '.' :: (patch ++ suffix))) ∧
      (v = [] ∨ v = ['v']) ∧ IsNumber major x ∧ IsNumber minor y ∧ IsNumber patch z ∧
      x < 2 ^ 63 ∧ y < 2 ^ 63 ∧ z < 2 ^ 63 ∧ IsSuffix suffix

/-- A repository: no `@`, and a colon only before a later slash. -/
structure IsRepo (repo : String) : Prop where
  no_at : '@' ∉ repo.toList
  port : ∀ pre post, repo.toList = pre ++ ':' :: post → '/' ∈ post

def IsTag (tag : String) : Prop :=
  ∀ c ∈ tag.toList, c ≠ ':' ∧ c ≠ '/' ∧ c ≠ '@' ∧ c ≠ '\n'

/-- `repo[:tag][@digest]`. -/
def imageText (repo : String) (tag digest : Option String) : String :=
  repo ++ (tag.map (":" ++ ·)).getD "" ++ (digest.map ("@" ++ ·)).getD ""

/-! ## Numbers -/

theorem parseDigits_iff {ds : List Char} {n : Nat} :
    parseDigits ds = some n ↔ IsNumber ds n := by
  unfold parseDigits
  constructor
  · intro h
    split at h
    · cases h
    · next hdigits =>
        simp only [Bool.or_eq_true, List.isEmpty_iff, List.any_eq_true, Bool.not_eq_true', not_or,
          not_exists, not_and, Bool.not_eq_false] at hdigits
        exact ⟨hdigits.1, hdigits.2, Option.some.inj h⟩
  · rintro ⟨hne, hdigits, hvalue⟩
    have hany : ds.any (fun c => !c.isDigit) = false := by
      rw [List.any_eq_false]
      intro c hc
      simp [hdigits c hc]
    simp only [hany, List.isEmpty_iff, hne, Bool.or_false]
    exact congrArg some hvalue

theorem versionNumber_iff {cs rest : List Char} {n : Nat} :
    versionNumber cs = some (n, rest) ↔
      ∃ ds, cs = ds ++ rest ∧ IsNumber ds n ∧ n < 2 ^ 63 ∧
        ∀ c ∈ rest.head?, c.isDigit = false := by
  unfold versionNumber
  constructor
  · intro h
    split at h
    · cases h
    · next hparsed =>
        split at h
        · next hfits =>
            cases h
            refine ⟨cs.takeWhile Char.isDigit, List.takeWhile_append_dropWhile.symm,
              parseDigits_iff.mp hparsed, hfits, ?_⟩
            intro c hc
            have hstop := List.head?_dropWhile_not Char.isDigit cs
            rw [Option.mem_def.mp hc] at hstop
            simpa using hstop
        · cases h
  · rintro ⟨ds, rfl, hnumber, hfits, hstop⟩
    obtain ⟨htake, hdrop⟩ := Lib.span_cut hnumber.digits hstop
    rw [htake, hdrop, parseDigits_iff.mpr hnumber]
    exact if_pos hfits

/-! ## The tag -/

theorem versionSuffix_iff {cs : List Char} (hline : '\n' ∉ cs) :
    versionSuffix cs = true ↔ IsSuffix cs := by
  unfold versionSuffix IsSuffix
  cases cs with
  | nil => simp
  | cons c rest =>
      have hrest : rest.contains '\n' = false := by
        simpa using fun h => hline (List.mem_cons_of_mem c h)
      simp only [hrest, Bool.not_false, Bool.and_true, Bool.or_eq_true, beq_iff_eq]
      constructor
      · rintro (rfl | rfl)
        · exact Or.inr ⟨rest, Or.inl rfl⟩
        · exact Or.inr ⟨rest, Or.inr rfl⟩
      · rintro (hnil | ⟨_, hdash | hplus⟩)
        · cases hnil
        · exact Or.inl (List.cons.inj hdash).1
        · exact Or.inr (List.cons.inj hplus).1

theorem suffix_stops {cs : List Char} (h : IsSuffix cs) : ∀ c ∈ cs.head?, c.isDigit = false := by
  rcases h with rfl | ⟨rest, rfl | rfl⟩
  · rintro c ⟨⟩
  · rintro c ⟨⟩
    decide
  · rintro c ⟨⟩
    decide

theorem dot_stops (rest : List Char) : ∀ c ∈ ('.' :: rest).head?, c.isDigit = false := by
  rintro c ⟨⟩
  decide

theorem tagVersion_cases {tag : List Char} {v : List Nat} :
    tagVersion tag = some v ↔ ∃ x y z r₁ r₂ r₃,
      versionNumber (if tag.head? = some 'v' then tag.tail else tag) = some (x, '.' :: r₁) ∧
        versionNumber r₁ = some (y, '.' :: r₂) ∧ versionNumber r₂ = some (z, r₃) ∧
        versionSuffix r₃ = true ∧ v = [x, y, z] := by
  unfold tagVersion
  constructor
  · intro h
    split at h
    · next x r₁ hx =>
        split at h
        · next y r₂ hy =>
            split at h
            · next z r₃ hz =>
                split at h
                · next hsuffix => exact ⟨x, y, z, r₁, r₂, r₃, hx, hy, hz, hsuffix, by cases h; rfl⟩
                · cases h
            · cases h
        · cases h
    · cases h
  · rintro ⟨x, y, z, r₁, r₂, r₃, hx, hy, hz, hsuffix, rfl⟩
    simp only [hx, hy, hz, hsuffix, if_true]

theorem strip_v {v major rest : List Char} {x : Nat} (hv : v = [] ∨ v = ['v'])
    (hmajor : IsNumber major x) :
    (if (v ++ (major ++ rest)).head? = some 'v' then (v ++ (major ++ rest)).tail
      else v ++ (major ++ rest)) = major ++ rest := by
  rcases hv with rfl | rfl
  · obtain ⟨c, ds, hds⟩ := List.exists_cons_of_ne_nil hmajor.nonempty
    have hc : c.isDigit = true := hmajor.digits c (by simp [hds])
    have hne : c ≠ 'v' := by
      rintro rfl
      exact absurd hc (by decide)
    rw [hds, if_neg]
    · rfl
    · simpa using hne
  · rfl

theorem exists_strip (tag : List Char) :
    ∃ v, (v = [] ∨ v = ['v']) ∧
      tag = v ++ (if tag.head? = some 'v' then tag.tail else tag) := by
  split
  · next hv =>
      refine ⟨['v'], Or.inr rfl, ?_⟩
      cases tag with
      | nil => cases hv
      | cons c rest =>
          cases hv
          rfl
  · exact ⟨[], Or.inl rfl, rfl⟩

theorem tagVersion_iff {tag : String} (hline : '\n' ∉ tag.toList) {v : List Nat} :
    tagVersion tag.toList = some v ↔ ∃ x y z, v = [x, y, z] ∧ ReleaseTag tag x y z := by
  rw [tagVersion_cases]
  constructor
  · rintro ⟨x, y, z, r₁, r₂, r₃, hx, hy, hz, hsuffix, rfl⟩
    obtain ⟨major, htext, hmajor, hfit₁, _⟩ := versionNumber_iff.mp hx
    obtain ⟨minor, rfl, hminor, hfit₂, _⟩ := versionNumber_iff.mp hy
    obtain ⟨patch, rfl, hpatch, hfit₃, _⟩ := versionNumber_iff.mp hz
    obtain ⟨p, hp, htag⟩ := exists_strip tag.toList
    rw [htext] at htag
    have hend : '\n' ∉ r₃ := by
      intro hmem
      refine hline ?_
      rw [htag]
      simp [hmem]
    exact ⟨x, y, z, rfl, p, major, minor, patch, r₃, htag, hp, hmajor, hminor, hpatch, hfit₁,
      hfit₂, hfit₃, (versionSuffix_iff hend).mp hsuffix⟩
  · rintro ⟨x, y, z, rfl, p, major, minor, patch, suffix, htag, hp, hmajor, hminor, hpatch, hfit₁,
      hfit₂, hfit₃, hsuffix⟩
    have hend : '\n' ∉ suffix := by
      intro hmem
      refine hline ?_
      rw [htag]
      simp [hmem]
    refine ⟨x, y, z, minor ++ '.' :: (patch ++ suffix), patch ++ suffix, suffix, ?_, ?_, ?_,
      (versionSuffix_iff hend).mpr hsuffix, rfl⟩
    · rw [htag, strip_v hp hmajor]
      exact versionNumber_iff.mpr ⟨major, rfl, hmajor, hfit₁, dot_stops _⟩
    · exact versionNumber_iff.mpr ⟨minor, rfl, hminor, hfit₂, dot_stops _⟩
    · exact versionNumber_iff.mpr ⟨patch, rfl, hpatch, hfit₃, suffix_stops hsuffix⟩

/-! ## The image -/

/-- After the last colon of a repository there is a slash: it is a port's. -/
theorem afterLast_port {repo : String} (h : IsRepo repo) (hcolon : ':' ∈ repo.toList) :
    '/' ∈ (repo.toList.reverse.takeWhile (· ≠ ':')).reverse := by
  obtain ⟨after, before, hsplit, hlast⟩ :=
    List.eq_append_cons_of_mem (List.mem_reverse.mpr hcolon)
  have hrepo : repo.toList = before.reverse ++ ':' :: after.reverse := by
    rw [← List.reverse_reverse repo.toList, hsplit]
    simp
  have hno : ':' ∉ after.reverse := by
    rw [List.mem_reverse]
    exact hlast
  rw [hrepo, Lib.afterLast_cut _ hno]
  exact h.port _ _ hrepo

theorem takeWhile_digest {repo : String} {tag digest : Option String} (hrepo : IsRepo repo)
    (htag : ∀ t ∈ tag, IsTag t) :
    (imageText repo tag digest).toList.takeWhile (· ≠ '@') =
      repo.toList ++ (tag.map fun t => ':' :: t.toList).getD [] := by
  have hplain : '@' ∉ repo.toList ++ (tag.map fun t => ':' :: t.toList).getD [] := by
    intro hc
    rcases List.mem_append.mp hc with hc | hc
    · exact hrepo.no_at hc
    · cases tag with
      | none => cases hc
      | some t =>
          rcases List.mem_cons.mp hc with hc | hc
          · exact absurd hc (by decide)
          · exact (htag t rfl '@' hc).2.2.1 rfl
  have hlist : (imageText repo tag digest).toList =
      (repo.toList ++ (tag.map fun t => ':' :: t.toList).getD []) ++
        (digest.map fun d => '@' :: d.toList).getD [] := by
    unfold imageText
    rw [String.toList_append, String.toList_append]
    cases tag <;> cases digest <;> simp
  have hstop : ∀ c ∈ ((digest.map fun d => '@' :: d.toList).getD []).head?, c = '@' := by
    cases digest <;> simp
  rw [hlist, Lib.takeWhile_ne_cut hplain hstop]

theorem imageVersion_tagged {repo tag : String} {digest : Option String} (hrepo : IsRepo repo)
    (htag : IsTag tag) :
    imageVersion (imageText repo (some tag) digest) = tagVersion tag.toList := by
  have htags : ∀ t ∈ some tag, IsTag t := by
    rintro t ⟨⟩
    exact htag
  have hcolon : ':' ∉ tag.toList := fun h => (htag ':' h).1 rfl
  have hslash : '/' ∉ tag.toList := fun h => (htag '/' h).2.1 rfl
  simp only [imageVersion, takeWhile_digest hrepo htags, Option.map_some, Option.getD_some,
    Lib.afterLast_cut _ hcolon, hslash, if_false]
  exact if_pos (by simp)

theorem imageVersion_untagged {repo : String} {digest : Option String} (hrepo : IsRepo repo) :
    imageVersion (imageText repo none digest) = none := by
  have htags : ∀ t ∈ (none : Option String), IsTag t := by rintro t ⟨⟩
  simp only [imageVersion, takeWhile_digest hrepo htags, Option.map_none, Option.getD_none,
    List.append_nil]
  split
  · next hcolon => exact if_pos (afterLast_port hrepo hcolon)
  · rfl

theorem backupUnsupported_unknown {cluster : KahunaCluster}
    (h : imageVersion cluster.spec.image = none) : backupUnsupported cluster = "" := by
  unfold backupUnsupported
  split
  · rfl
  · split
    · rfl
    · rw [h]

/-- For every image `repo[:tag][@digest]`: its version is X, Y, Z exactly when the tag is
a release tag of these numbers, and unknown otherwise; without a tag it is unknown,
whatever port the repository names; and a backup is never refused for a version that
is unknown. -/
theorem image_version_grammar {repo : String} {tag digest : Option String} (hrepo : IsRepo repo)
    (htag : ∀ t ∈ tag, IsTag t) :
    (∀ v, imageVersion (imageText repo tag digest) = some v ↔
        ∃ t x y z, tag = some t ∧ v = [x, y, z] ∧ ReleaseTag t x y z) ∧
      (imageVersion (imageText repo tag digest) = none ↔
        ¬ ∃ t x y z, tag = some t ∧ ReleaseTag t x y z) ∧
      (tag = none → imageVersion (imageText repo tag digest) = none) ∧
      ∀ cluster : KahunaCluster, cluster.spec.image = imageText repo tag digest →
        imageVersion (imageText repo tag digest) = none → backupUnsupported cluster = "" := by
  have hversion : ∀ v, imageVersion (imageText repo tag digest) = some v ↔
      ∃ t x y z, tag = some t ∧ v = [x, y, z] ∧ ReleaseTag t x y z := by
    intro v
    cases tag with
    | none =>
        rw [imageVersion_untagged hrepo]
        refine iff_of_false (by simp) ?_
        rintro ⟨_, _, _, _, ⟨⟩, _⟩
    | some t =>
        have hline : '\n' ∉ t.toList := fun h => (htag t rfl '\n' h).2.2.2 rfl
        rw [imageVersion_tagged hrepo (htag t rfl), tagVersion_iff hline]
        constructor
        · rintro ⟨x, y, z, hv, hrelease⟩
          exact ⟨t, x, y, z, rfl, hv, hrelease⟩
        · rintro ⟨_, x, y, z, ⟨⟩, hv, hrelease⟩
          exact ⟨x, y, z, hv, hrelease⟩
  refine ⟨hversion, ?_, ?_, ?_⟩
  · rw [Option.eq_none_iff_forall_ne_some]
    constructor
    · rintro hnone ⟨t, x, y, z, ht, hrelease⟩
      exact hnone [x, y, z] ((hversion _).mpr ⟨t, x, y, z, ht, rfl, hrelease⟩)
    · intro hnot v hv
      obtain ⟨t, x, y, z, ht, _, hrelease⟩ := (hversion v).mp hv
      exact hnot ⟨t, x, y, z, ht, hrelease⟩
  · rintro rfl
    exact imageVersion_untagged hrepo
  · intro cluster himage hunknown
    rw [← himage] at hunknown
    exact backupUnsupported_unknown hunknown

/-- A registry, with a port or without, and a path without a colon. -/
theorem isRepo_path {host path : String} (hhost : '@' ∉ host.toList) (hat : '@' ∉ path.toList)
    (hcolon : ':' ∉ path.toList) : IsRepo (host ++ "/" ++ path) := by
  have hlist : (host ++ "/" ++ path).toList = host.toList ++ '/' :: path.toList := by
    rw [String.toList_append, String.toList_append]
    simp
  refine ⟨?_, ?_⟩
  · rw [hlist]
    simp [hhost, hat]
  · intro pre post hsplit
    rw [hlist, List.append_eq_append_iff] at hsplit
    rcases hsplit with ⟨mid, _, hpath⟩ | ⟨mid, _, hpost⟩
    · -- The colon would be in the path.
      cases mid with
      | nil => exact absurd (List.cons.inj hpath).1 (by decide)
      | cons c mid =>
          refine absurd ?_ hcolon
          rw [(List.cons.inj hpath).2]
          simp
    · cases mid with
      | nil => exact absurd (List.cons.inj hpost).1 (by decide)
      | cons c mid =>
          rw [(List.cons.inj hpost).2]
          simp

/-- A registry with a port, and a release candidate of 1.12.6 with a digest. -/
theorem candidate_version :
    imageVersion (imageText "registry:5000/kahuna" (some "v1.12.6-rc.1") (some "sha256:0")) =
      some [1, 12, 6] := by
  have hrepo : IsRepo ("registry:5000" ++ "/" ++ "kahuna") :=
    isRepo_path (by decide) (by decide) (by decide)
  have htag : ∀ t ∈ some "v1.12.6-rc.1", IsTag t := by
    rintro t ⟨⟩
    unfold IsTag
    simp
  have hrelease : ReleaseTag "v1.12.6-rc.1" 1 12 6 := by
    refine ⟨"v".toList, "1".toList, "12".toList, "6".toList, "-rc.1".toList, by decide,
      Or.inr (by decide), ?_, ?_, ?_, by decide, by decide, by decide,
      Or.inr ⟨"rc.1".toList, Or.inl (by decide)⟩⟩
    · exact ⟨by decide, by simp, by decide⟩
    · exact ⟨by decide, by simp, by decide⟩
    · exact ⟨by decide, by simp, by decide⟩
  exact ((image_version_grammar hrepo htag).1 _).mpr ⟨_, 1, 12, 6, rfl, rfl, hrelease⟩

end KahunaOperator
