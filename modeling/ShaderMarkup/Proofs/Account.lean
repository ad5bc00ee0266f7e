import Mathlib.Logic.Basic
import ShaderMarkup.Proofs.Construction
import ShaderMarkup.Proofs.Numeral
import ShaderMarkup.Proofs.WellFormed

/-!
# Every declaration is accounted for

Declarations are read kind by kind, and each of them either yields a resource or is refused with
log entries.  Nothing but the resources and the log is left behind, so a declaration that yielded
neither would be lost without a trace.

* `Declaration.Yields` is what reading one declaration leaves: a resource of its kind with its
  index, or reports that name it and a quotation.  The log and the resources are put together from
  there, one declaration after the other (`entries_resourcesOf`).
* A report starts with the kind, the index and the line of its declaration, so it can be told whose
  report it is (`Declaration.index_eq_of_isReport`).
* `declarations_accounted` is the result: what became of every declaration can be read off from the
  resources and the log.
-/

namespace ShaderMarkup

/-! ## Reports -/

/-- The start of every report about a declaration. -/
def Declaration.reportHead (declaration : Declaration) : Text :=
  declaration.kind.label.toList ++ " declaration #".toList ++ Text.ofNat declaration.index
    ++ " (line ".toList ++ Text.ofNat declaration.line ++ "): ".toList

/-- The entry is an error that names the kind, the index and the line of the declaration. -/
def Declaration.IsReport (declaration : Declaration) (entry : LogEntry) : Prop :=
  entry.level = .error ∧ declaration.reportHead <+: entry.message

/-- The entry that quotes a refused declaration. -/
def Declaration.quotation (declaration : Declaration) : LogEntry where
  level := .error
  message := "Original declaration:\n".toList ++ declaration.text

/-- A refusal consists of a report for each issue, and the quotation. -/
theorem Declaration.exists_refusal_eq (declaration : Declaration) {issues : List Issue}
    (hne : issues ≠ []) :
    ∃ reports, declaration.refusal issues = reports ++ [declaration.quotation] ∧ reports ≠ [] ∧
      ∀ entry ∈ reports, declaration.IsReport entry := by
  refine ⟨_, rfl, by simpa using hne, ?_⟩
  intro entry hentry
  obtain ⟨issue, -, rfl⟩ := List.mem_map.mp hentry
  exact ⟨rfl, Issue.message issue, rfl⟩

/-- The words for the kinds differ in their first letters. -/
theorem ResourceKind.eq_of_head?_label {kind other : ResourceKind}
    (h : kind.label.toList.head? = other.label.toList.head?) : kind = other := by
  cases kind <;> cases other <;> simp_all [label]

theorem Declaration.head?_reportHead_append (declaration : Declaration) (rest : Text) :
    (declaration.reportHead ++ rest).head? = declaration.kind.label.toList.head? := by
  unfold reportHead
  cases declaration.kind <;> rfl

/-- A number that a space follows ends at the space. -/
theorem Text.eq_of_ofNat_append_space {m n : Nat} {a b : Text}
    (h : Text.ofNat m ++ ' ' :: a = Text.ofNat n ++ ' ' :: b) : m = n := by
  have htake (k : Nat) (rest : Text) :
      (Text.ofNat k ++ ' ' :: rest).takeWhile Char.isDigit = Text.ofNat k := by
    rw [List.takeWhile_append_of_pos fun c hc => Text.isDigit_of_mem_ofNat hc,
      List.takeWhile_cons_of_neg (by decide), List.append_nil]
  have hdigits : Text.ofNat m = Text.ofNat n := by
    rw [← htake m a, h, htake n b]
  rw [← Text.natValue_ofNat m, hdigits, Text.natValue_ofNat n]

/-- An entry is a report about one declaration only. -/
theorem Declaration.index_eq_of_isReport {declaration other : Declaration} {entry : LogEntry}
    (h : declaration.IsReport entry) (h' : other.IsReport entry) :
    declaration.index = other.index := by
  obtain ⟨rest, hrest⟩ := h.2
  obtain ⟨rest', hrest'⟩ := h'.2
  have hsame := hrest.trans hrest'.symm
  have hkind : declaration.kind = other.kind := by
    apply ResourceKind.eq_of_head?_label
    rw [← declaration.head?_reportHead_append rest, hsame, head?_reportHead_append]
  unfold reportHead at hsame
  simp only [hkind, List.append_assoc, List.append_cancel_left_eq] at hsame
  exact Text.eq_of_ofNat_append_space hsame

theorem Declaration.not_isReport_quotation (declaration other : Declaration) :
    ¬ declaration.IsReport other.quotation := by
  rintro ⟨-, rest, hrest⟩
  have hhead := congrArg List.head? hrest
  rw [head?_reportHead_append] at hhead
  cases hkind : declaration.kind <;> rw [hkind] at hhead <;> cases hhead

/-! ## One declaration -/

/-- What reading a declaration leaves.  A resource comes with warnings at most; without one there
are reports that name the declaration, and right behind them its text. -/
inductive Declaration.Yields (declaration : Declaration) : Option Resource → List LogEntry → Prop
  | accepted {resource : Resource} {warnings : List LogEntry}
      (hkind : resource.kind = declaration.kind)
      (hindex : resource.declarationIndex = declaration.index)
      (hwarnings : ∀ entry ∈ warnings, entry.level = .warning) :
      Yields declaration (some resource) warnings
  | refused {warnings reports : List LogEntry}
      (hwarnings : ∀ entry ∈ warnings, entry.level = .warning) (hne : reports ≠ [])
      (hreports : ∀ entry ∈ reports, declaration.IsReport entry) :
      Yields declaration none (warnings ++ (reports ++ [declaration.quotation]))

namespace Journal

variable {ε α β : Type}

theorem entries_bind_of_ok {first : Journal ε α} {next : α → Journal ε β} {a : α}
    (h : first.result = .ok a) : (first >>= next).entries = first.entries ++ (next a).entries := by
  obtain ⟨entries, result⟩ := first
  obtain rfl : result = .ok a := h
  rfl

theorem mem_entries_bind {first : Journal ε α} {next : α → Journal ε β} {entry : LogEntry}
    (h : entry ∈ (first >>= next).entries) :
    entry ∈ first.entries ∨ ∃ a, entry ∈ (next a).entries := by
  obtain ⟨entries, result⟩ := first
  cases result with
  | error failure => exact Or.inl h
  | ok a => exact (List.mem_append.mp h).imp_right fun hnext => ⟨a, hnext⟩

end Journal

section Build

variable {context : Context} {declaration : Declaration}

theorem Uniform.level_of_mem_build {entry : LogEntry}
    (h : entry ∈ (Uniform.build context declaration).entries) : entry.level = .warning := by
  unfold Uniform.build at h
  split at h
  · cases h
  · rcases Journal.mem_entries_bind h with h | ⟨_, h⟩
    · cases h
    · rcases Journal.mem_entries_bind h with h | ⟨_, h⟩
      · obtain ⟨unused, -, rfl⟩ := List.mem_map.mp h
        rfl
      · rcases Journal.mem_entries_bind h with h | ⟨_, h⟩ <;> cases h

/-- What is written before a declaration is accepted or refused are warnings. -/
theorem Declaration.level_of_mem_build {entry : LogEntry}
    (h : entry ∈ (declaration.build context).entries) : entry.level = .warning := by
  unfold Declaration.build at h
  cases hkind : declaration.kind with
  | uniform =>
      rw [hkind] at h
      exact Uniform.level_of_mem_build h
  | texture | buffer | sampler | reference =>
      rw [hkind] at h
      cases h

/-- A declaration that does not end the reading yields a resource or is refused. -/
theorem Declaration.yields (h : ∀ cause, ¬ declaration.BreaksWith context cause) :
    declaration.Yields (declaration.accepted? context)
      (declaration.resource? context).entries := by
  unfold Declaration.resource?
  cases hissues : declaration.issues with
  | cons issue issues =>
      obtain ⟨reports, hrefusal, hne, hreports⟩ :=
        declaration.exists_refusal_eq (List.cons_ne_nil issue issues)
      simp only [Declaration.accepted?, hissues, hrefusal]
      exact @Yields.refused declaration [] reports (by simp) hne hreports
  | nil =>
      cases hbuild : (declaration.build context).result with
      | ok resource =>
          have haccepted : declaration.accepted? context = some resource :=
            Declaration.accepted?_eq_some_iff.mpr ⟨hissues, hbuild⟩
          simp only [hbuild, haccepted]
          exact .accepted (Declaration.kind_of_build hbuild)
            (Declaration.index_of_accepted? haccepted) fun entry => Declaration.level_of_mem_build
      | error fault =>
          cases fault with
          | abort cause => exact absurd ⟨hissues, hbuild⟩ (h cause)
          | issue report =>
              obtain ⟨reports, hrefusal, hne, hreports⟩ :=
                declaration.exists_refusal_eq (List.cons_ne_nil report.error [])
              simp only [Declaration.accepted?, hissues, hbuild, hrefusal]
              exact .refused (fun entry => Declaration.level_of_mem_build) hne hreports

end Build

/-- What another declaration leaves says nothing about this one. -/
theorem Declaration.Yields.not_isReport {declaration other : Declaration}
    {outcome : Option Resource} {entries : List LogEntry} (h : other.Yields outcome entries)
    (hne : other.index ≠ declaration.index) :
    ∀ entry ∈ entries, ¬ declaration.IsReport entry := by
  have hwarning {warnings : List LogEntry}
      (hwarnings : ∀ entry ∈ warnings, entry.level = .warning) :
      ∀ entry ∈ warnings, ¬ declaration.IsReport entry := by
    intro entry hentry hreport
    cases (hwarnings entry hentry).symm.trans hreport.1
  cases h with
  | accepted _ _ hwarnings => exact hwarning hwarnings
  | refused hwarnings _ hreports =>
      simp only [List.forall_mem_append, List.forall_mem_singleton]
      refine ⟨hwarning hwarnings, ?_, declaration.not_isReport_quotation other⟩
      intro entry hentry hreport
      exact hne (Declaration.index_eq_of_isReport (hreports entry hentry) hreport)

/-! ## All declarations -/

/-- The log of a reading that does not end early: what the declarations write, one after the
other. -/
theorem entries_resourcesOf {context : Context} {declared : List Declaration}
    (h : ∀ declaration ∈ declared, ∀ cause, ¬ declaration.BreaksWith context cause) :
    (resourcesOf context declared).entries
      = declared.flatMap fun declaration => (declaration.resource? context).entries := by
  induction declared with
  | nil => rfl
  | cons declaration rest ih =>
      rw [List.forall_mem_cons] at h
      have hfirst := Declaration.resource?_eq_ok_iff.mpr ⟨h.1, rfl⟩
      have hrest := resourcesOf_eq_ok_iff.mpr ⟨h.2, rfl⟩
      rw [resourcesOf, Journal.entries_bind_of_ok hfirst, Journal.entries_bind_of_ok hrest, ih h.2,
        List.flatMap_cons]
      exact congrArg _ (List.append_nil _)

/-- The place of a kind in the list of resources. -/
def ResourceKind.rank (kind : ResourceKind) : Nat :=
  ResourceKind.all.idxOf kind

theorem pairwise_byKind {declared : List Declaration}
    (h : declared.Pairwise fun a b => a.index < b.index) :
    (byKind declared).Pairwise fun a b =>
      a.kind.rank < b.kind.rank ∨ a.kind = b.kind ∧ a.index < b.index := by
  have hkinds : ResourceKind.all.Pairwise fun a b => a.rank < b.rank := by decide
  refine List.pairwise_flatMap.mpr ⟨fun kind _ => ?_, hkinds.imp ?_⟩
  · refine (h.filter _).imp_of_mem fun ha hb hlt => Or.inr ⟨?_, hlt⟩
    have hleft := (List.mem_filter.mp ha).2
    have hright := (List.mem_filter.mp hb).2
    simp only [decide_eq_true_eq] at hleft hright
    rw [hleft, hright]
  · intro kind later hlt a ha b hb
    have hleft := (List.mem_filter.mp ha).2
    have hright := (List.mem_filter.mp hb).2
    simp only [decide_eq_true_eq] at hleft hright
    exact Or.inl (hleft ▸ hright ▸ hlt)

/-! ## Accounts -/

/-- The declaration yielded one resource, and no report names it. -/
structure Declaration.IsAcceptedIn (declaration : Declaration) (resources : List Resource)
    (entries : List LogEntry) : Prop where
  listed : ∃ resource,
    resources.filter (fun other => other.declarationIndex = (declaration.index : Int))
        = [resource] ∧
      resource.kind = declaration.kind
  silent : ∀ entry ∈ entries, ¬ declaration.IsReport entry

/-- The declaration yielded no resource.  All reports that name it stand together, there is at least
one, and the text of the declaration follows them. -/
structure Declaration.IsRefusedIn (declaration : Declaration) (resources : List Resource)
    (entries : List LogEntry) : Prop where
  absent : ∀ resource ∈ resources, resource.declarationIndex ≠ declaration.index
  reported : ∃ before reports after,
    entries = before ++ (reports ++ declaration.quotation :: after) ∧ reports ≠ [] ∧
      (∀ entry ∈ reports, declaration.IsReport entry) ∧
      ∀ entry ∈ before ++ after, ¬ declaration.IsReport entry

/-- A declaration cannot be both. -/
theorem Declaration.IsAcceptedIn.not_isRefusedIn {declaration : Declaration}
    {resources : List Resource} {entries : List LogEntry}
    (h : declaration.IsAcceptedIn resources entries) :
    ¬ declaration.IsRefusedIn resources entries := by
  intro hrefused
  obtain ⟨resource, hlisted, -⟩ := h.listed
  have hfound : resource ∈ [resource] := by simp
  rw [← hlisted, List.mem_filter, decide_eq_true_eq] at hfound
  exact hrefused.absent resource hfound.1 hfound.2

section Account

variable {context : Context} {declared : List Declaration}

/-- The resources of other declarations have other indices. -/
theorem index_ne_of_mem_filterMap {declaration : Declaration}
    (h : ∀ other ∈ declared, other.index ≠ declaration.index) {resource : Resource}
    (hmem : resource ∈ declared.filterMap (·.accepted? context)) :
    resource.declarationIndex ≠ declaration.index := by
  obtain ⟨other, hother, haccepted⟩ := List.mem_filterMap.mp hmem
  rw [Declaration.index_of_accepted? haccepted]
  exact fun heq => h other hother (Int.ofNat_inj.mp heq)

theorem not_isReport_of_mem_flatMap {declaration : Declaration}
    (hreadable : ∀ other ∈ declared, ∀ cause, ¬ other.BreaksWith context cause)
    (h : ∀ other ∈ declared, other.index ≠ declaration.index) :
    ∀ entry ∈ declared.flatMap fun other => (other.resource? context).entries,
      ¬ declaration.IsReport entry := by
  intro entry hentry
  obtain ⟨other, hother, hentry⟩ := List.mem_flatMap.mp hentry
  exact (Declaration.yields (hreadable other hother)).not_isReport (h other hother) entry hentry

/-- Among declarations with different indices, each is accepted or refused. -/
theorem isAcceptedIn_or_isRefusedIn
    (hreadable : ∀ other ∈ declared, ∀ cause, ¬ other.BreaksWith context cause)
    (hindices : declared.Pairwise fun a b => a.index ≠ b.index) {declaration : Declaration}
    (hmem : declaration ∈ declared) :
    declaration.IsAcceptedIn (declared.filterMap (·.accepted? context))
        (resourcesOf context declared).entries ∨
      declaration.IsRefusedIn (declared.filterMap (·.accepted? context))
        (resourcesOf context declared).entries := by
  rw [entries_resourcesOf hreadable]
  obtain ⟨front, back, rfl⟩ := List.append_of_mem hmem
  rw [List.pairwise_append, List.pairwise_cons] at hindices
  obtain ⟨-, ⟨hback, -⟩, hfront⟩ := hindices
  replace hfront : ∀ other ∈ front, other.index ≠ declaration.index :=
    fun other hother => hfront other hother declaration (by simp)
  replace hback : ∀ other ∈ back, other.index ≠ declaration.index :=
    fun other hother => (hback other hother).symm
  simp only [List.forall_mem_append, List.forall_mem_cons] at hreadable
  obtain ⟨hfrontReadable, hsound, hbackReadable⟩ := hreadable
  have hbefore := not_isReport_of_mem_flatMap hfrontReadable hfront
  have hafter := not_isReport_of_mem_flatMap hbackReadable hback
  have hyields := Declaration.yields hsound
  rw [List.flatMap_append, List.flatMap_cons, List.filterMap_append, List.filterMap_cons]
  generalize (declaration.resource? context).entries = written at hyields
  cases hyields' : declaration.accepted? context with
  | some resource =>
      rw [hyields'] at hyields
      cases hyields with
      | accepted hkind hindex hwarnings =>
          refine Or.inl ⟨⟨resource, ?_, hkind⟩, ?_⟩
          · have hnone {others : List Declaration}
                (h : ∀ other ∈ others, other.index ≠ declaration.index) :
                (others.filterMap (·.accepted? context)).filter
                  (fun other => other.declarationIndex = (declaration.index : Int)) = [] := by
              simpa [List.filter_eq_nil_iff] using fun other hother =>
                index_ne_of_mem_filterMap h hother
            simp [List.filter_append, hnone hfront, hnone hback, hindex]
          · simp only [List.forall_mem_append]
            refine ⟨hbefore, fun entry hentry hreport => ?_, hafter⟩
            cases (hwarnings entry hentry).symm.trans hreport.1
  | none =>
      rw [hyields'] at hyields
      cases hyields with
      | @refused warnings reports hwarnings hne hreports =>
          refine Or.inr ⟨?_,
            front.flatMap (fun other => (other.resource? context).entries) ++ warnings, reports,
            back.flatMap fun other => (other.resource? context).entries, by simp, hne, hreports, ?_⟩
          · simp only [List.forall_mem_append]
            exact ⟨fun resource => index_ne_of_mem_filterMap hfront,
              fun resource => index_ne_of_mem_filterMap hback⟩
          · simp only [List.forall_mem_append]
            refine ⟨⟨hbefore, fun entry hentry hreport => ?_⟩, hafter⟩
            cases (hwarnings entry hentry).symm.trans hreport.1

end Account

/-- No declaration is lost.  Each is either accepted, with exactly one resource of its kind and
index and no report, or refused, with no resource, at least one report and its text.  Every resource
comes from a declaration, and the resources stand in the order of their kinds and indices. -/
theorem declarations_accounted (code : Text) (context : Context) {resources : List Resource}
    {entries : List LogEntry}
    (h : collectResources context ResourceKind.all (declarations code) = ⟨entries, .ok resources⟩) :
    (∀ declaration ∈ declarations code,
        Xor (declaration.IsAcceptedIn resources entries)
          (declaration.IsRefusedIn resources entries)) ∧
      (∀ resource ∈ resources, ∃ declaration ∈ declarations code,
        resource.kind = declaration.kind ∧ resource.declarationIndex = declaration.index) ∧
      resources.Pairwise fun a b =>
        a.kind.rank < b.kind.rank ∨
          a.kind = b.kind ∧ a.declarationIndex < b.declarationIndex := by
  have hresult : (resourcesOf context (byKind (declarations code))).result = .ok resources :=
    congrArg Journal.result h
  have hentries : (resourcesOf context (byKind (declarations code))).entries = entries :=
    congrArg Journal.entries h
  obtain ⟨hreadable, rfl⟩ := resourcesOf_eq_ok_iff.mp hresult
  have horder := pairwise_byKind (pairwise_index_declarationsFrom code 0 (statements code))
  have hindices : (byKind (declarations code)).Pairwise fun a b => a.index ≠ b.index := by
    refine ((byKind_perm _).pairwise_iff Ne.symm).mpr ?_
    exact (pairwise_index_declarationsFrom _ _ _).imp Nat.ne_of_lt
  refine ⟨fun declaration hmem => ?_, fun resource hmem => ?_, ?_⟩
  · rw [← hentries]
    rcases isAcceptedIn_or_isRefusedIn hreadable hindices (mem_byKind.mpr hmem) with hyes | hno
    · exact Or.inl ⟨hyes, hyes.not_isRefusedIn⟩
    · exact Or.inr ⟨hno, fun hyes => hyes.not_isRefusedIn hno⟩
  · obtain ⟨declaration, hdeclaration, haccepted⟩ := List.mem_filterMap.mp hmem
    exact ⟨declaration, mem_byKind.mp hdeclaration,
      Declaration.kind_of_build (Declaration.accepted?_eq_some_iff.mp haccepted).2,
      Declaration.index_of_accepted? haccepted⟩
  · refine List.pairwise_filterMap.mpr (horder.imp ?_)
    intro a b hab first hfirst second hsecond
    rw [Declaration.index_of_accepted? hfirst, Declaration.index_of_accepted? hsecond,
      Declaration.kind_of_build (Declaration.accepted?_eq_some_iff.mp hfirst).2,
      Declaration.kind_of_build (Declaration.accepted?_eq_some_iff.mp hsecond).2]
    exact hab.imp_right fun hsame => ⟨hsame.1, Int.ofNat_lt.mpr hsame.2⟩

/-- A sampler, a texture that lacks what it needs, and a uniform with a default value too many and a
slot that is no number. -/
def mixedFates : Text :=
  "@sampler var s: sampler;\n@texture var t: texture_2d<f32>;\n".toList
    ++ "@uniform(@a(1) @b(2) @group(x)) var<uniform> u: S;\nstruct S \x7b a: f32 \x7d".toList

theorem declarations_accounted_mixedFates :
    ∃ resources entries,
      collectResources (.ofCode mixedFates [] {}) ResourceKind.all (declarations mixedFates)
        = ⟨entries, .ok resources⟩ ∧
      resources.map (·.declarationIndex) = [0] ∧
      entries.map (·.level) = [.error, .error, .error, .warning, .error, .error] ∧
      ∀ declaration ∈ declarations mixedFates,
        Xor (declaration.IsAcceptedIn resources entries)
          (declaration.IsRefusedIn resources entries) := by
  have hindices : (collectResources (.ofCode mixedFates [] {}) ResourceKind.all
      (declarations mixedFates)).result.toOption.map
        (fun resources => resources.map (·.declarationIndex)) = some [0] := by
    decide +kernel
  have hlevels : (collectResources (.ofCode mixedFates [] {}) ResourceKind.all
      (declarations mixedFates)).entries.map (·.level)
        = [.error, .error, .error, .warning, .error, .error] := by
    decide +kernel
  cases hcollect : collectResources (.ofCode mixedFates [] {}) ResourceKind.all
      (declarations mixedFates) with
  | mk entries result =>
      rw [hcollect] at hindices hlevels
      cases result with
      | error cause => cases hindices
      | ok resources =>
          exact ⟨resources, entries, rfl, Option.some.inj hindices, hlevels,
            (declarations_accounted mixedFates (.ofCode mixedFates [] {}) hcollect).1⟩

end ShaderMarkup
