import LogOperator.Proofs.Routing.Tags

/-!
# LogOperator.Proofs.Routing.Files

Which files a rule collects.  The log of a container is named by its pod, the pod's namespace and what the
runtime adds, with an underscore after each of the first two.  A glob has two underscores of its own, so
they are the two of the name, whatever the stars stand for, as long as no part of the name has one:

* `Text.append_cons_append_cons_inj` — two separators cut a text in one way;
* `WatchRule.fits_glob_iff` — the names that a glob fits;
* `WatchRule.tails_named_pods` — a rule of a valid pipeline collects the logs of the pods that it names,
  and no others.
-/

namespace LogOperator

/-! ## Cuts -/

namespace Text

/-- **Two separators cut a text in one way**, if the parts of one cut have no separator in them.  Both
texts have as many of them, so the parts of the other cut have none either. -/
theorem append_cons_append_cons_inj {α : Type} [DecidableEq α] {a : α} {xs ys zs xs' ys' zs' : List α}
    (hx : a ∉ xs) (hy : a ∉ ys) (hz : a ∉ zs)
    (h : xs ++ a :: (ys ++ a :: zs) = xs' ++ a :: (ys' ++ a :: zs')) :
    xs = xs' ∧ ys = ys' ∧ zs = zs' := by
  have hcount := congrArg (List.count a) h
  simp only [List.count_append, List.count_cons_self, List.count_eq_zero_of_not_mem hx,
    List.count_eq_zero_of_not_mem hy, List.count_eq_zero_of_not_mem hz] at hcount
  have hx' : a ∉ xs' := List.count_eq_zero.1 (by omega)
  have hy' : a ∉ ys' := List.count_eq_zero.1 (by omega)
  obtain ⟨rfl, hrest⟩ := append_cons_inj_of_not_mem_left hx hx' h
  exact ⟨rfl, append_cons_inj_of_not_mem_left hy hy' hrest⟩

end Text

/-! ## Files -/

/-- A part of the name of a log: it has neither the separator of parts nor that of directories. -/
def Text.IsNamePart (s : String) : Prop :=
  '_' ∉ s.toList ∧ '/' ∉ s.toList

instance (s : String) : Decidable (Text.IsNamePart s) :=
  inferInstanceAs (Decidable (_ ∧ _))

/-- The log of a container of a pod. -/
def containerLog (pod ns rest : String) : String :=
  containerLogDir ++ "/" ++ pod ++ "_" ++ ns ++ "_" ++ rest ++ ".log"

/-- The characters of a log's path: the pod, the namespace and the rest, with underscores between
them. -/
theorem toList_containerLog (pod ns rest : String) : (containerLog pod ns rest).toList
    = (containerLogDir ++ "/").toList
      ++ (pod.toList ++ '_' :: (ns.toList ++ '_' :: (rest ++ ".log").toList)) := by
  simp [containerLog, String.toList_append]

namespace WatchRule

open Text (IsNamePart)

variable {r : WatchRule} {defined : List String} {free : Char → Bool} {cs : List Char}
  {start pod ns rest : String} {p : Pipeline} {v : ValidPipeline}

/-- The rule collects a file: one of its globs fits it.  A star does not go beyond a directory. -/
def collects (r : WatchRule) (file : String) : Bool :=
  r.globs.any fun glob => Text.fits (· != '/') glob.toList file.toList

/-- The characters of a rule's glob: what the path starts with, and the namespace between stars. -/
theorem toList_glob (r : WatchRule) (start : String) : (r.glob start).toList
    = ((containerLogDir ++ "/").toList ++ start.toList)
      ++ '*' :: (('_' :: (r.ns.toList ++ ['_'])) ++ ['*']) := by
  simp [glob, String.toList_append]

/-- A glob stands for two texts without directories in them: one after the start of the pod's name and
one at the end. -/
theorem fits_glob_iff (hns : '*' ∉ r.ns.toList) (hstart : '*' ∉ start.toList) :
    Text.fits free (r.glob start).toList cs = true ↔ ∃ run tail : List Char,
      cs = (containerLogDir ++ "/").toList
        ++ ((start.toList ++ run) ++ '_' :: (r.ns.toList ++ '_' :: tail)) ∧
      (∀ c ∈ run, free c = true) ∧ ∀ c ∈ tail, free c = true := by
  have hfront : '*' ∉ (containerLogDir ++ "/").toList ++ start.toList := by
    rw [List.mem_append]
    exact fun h => h.elim (by decide) hstart
  have hmiddle : '*' ∉ '_' :: (r.ns.toList ++ ['_']) := by simpa using hns
  rw [toList_glob, Text.fits_append_iff hfront]
  constructor
  · rintro ⟨_, rfl, hrest⟩
    obtain ⟨run, _, rfl, hrun, hrest⟩ := Text.fits_star_iff.1 hrest
    obtain ⟨tail, rfl, htail⟩ := (Text.fits_append_iff hmiddle).1 hrest
    exact ⟨run, tail, by simp, hrun, Text.fits_star_end.1 htail⟩
  · rintro ⟨run, tail, rfl, hrun, htail⟩
    have hend := (Text.fits_append_iff hmiddle).2 ⟨tail, rfl, Text.fits_star_end.2 htail⟩
    exact ⟨_, by simp, Text.fits_star_iff.2 ⟨run, _, rfl, hrun, hend⟩⟩

/-- **The logs that a glob fits** are those of the pods of the rule's namespace whose names start as the
glob says. -/
theorem fits_glob_containerLog_iff (hns : '*' ∉ r.ns.toList) (hstart : '*' ∉ start.toList)
    (hpod : IsNamePart pod) (hpodNs : IsNamePart ns) (hrest : IsNamePart rest) :
    Text.fits (· != '/') (r.glob start).toList (containerLog pod ns rest).toList = true ↔
      ns = r.ns ∧ start.toList <+: pod.toList := by
  have htail : '_' ∉ (rest ++ ".log").toList ∧ '/' ∉ (rest ++ ".log").toList := by
    simpa [String.toList_append, IsNamePart] using hrest
  rw [fits_glob_iff hns hstart, toList_containerLog]
  constructor
  · rintro ⟨run, tail, hcut, -, -⟩
    obtain ⟨hpodCut, hnsCut, -⟩ := Text.append_cons_append_cons_inj hpod.1 hpodNs.1 htail.1
      (List.append_cancel_left hcut)
    exact ⟨String.toList_injective hnsCut, run, hpodCut.symm⟩
  · rintro ⟨rfl, run, hrun⟩
    have hfree : ∀ c ∈ run, (c != '/') = true := by
      intro c hc
      rw [bne_iff_ne]
      rintro rfl
      exact hpod.2 (hrun ▸ List.mem_append_right _ hc)
    have hfreeTail : ∀ c ∈ (rest ++ ".log").toList, (c != '/') = true := by
      intro c hc
      rw [bne_iff_ne]
      rintro rfl
      exact htail.2 hc
    exact ⟨run, _, by rw [hrun], hfree, hfreeTail⟩

/-- **A rule collects the logs of the pods that it names.**  A rule of a valid pipeline has a glob that fits
the log of a pod exactly if the pod is in the rule's namespace and the rule names no deployments or one
that the pod's name starts with. -/
theorem tails_named_pods (hv : p.validate = .ok v) (hr : r ∈ v.spec.watch) (hpod : IsNamePart pod)
    (hns : IsNamePart ns) (hrest : IsNamePart rest) :
    r.collects (containerLog pod ns rest) = true ↔
      ns = r.ns ∧ (r.deployments = [] ∨ ∃ d ∈ r.deployments, d.toList <+: pod.toList) := by
  have h := (Pipeline.wellFormed_of_validate hv).watch r hr
  have hstarNs : '*' ∉ r.ns.toList :=
    Text.not_mem_of_isToken (Text.isToken_of_isDnsLabel h.ns) (by decide)
  have hfits {start : String} (hstart : '*' ∉ start.toList) :=
    fits_glob_containerLog_iff hstarNs hstart hpod hns hrest
  rw [collects, globs, List.any_eq_true]
  by_cases hall : r.deployments = []
  · rw [if_pos (List.isEmpty_iff.2 hall)]
    simp [hall, hfits]
  · have hstart : ∀ d ∈ r.deployments, '*' ∉ d.toList := fun d hd hmem =>
      absurd (Text.isTokenChar_of_mem_subdomain (h.deployments d hd) hmem) (by decide)
    rw [if_neg (by simpa using hall)]
    simp only [List.mem_map, exists_exists_and_eq_and, hall, false_or]
    constructor
    · rintro ⟨d, hd, hfit⟩
      obtain ⟨hsame, hprefix⟩ := (hfits (hstart d hd)).1 hfit
      exact ⟨hsame, d, hd, hprefix⟩
    · rintro ⟨hsame, d, hd, hprefix⟩
      exact ⟨d, hd, (hfits (hstart d hd)).2 ⟨hsame, hprefix⟩⟩

/-- A rule for two deployments collects the log of a pod of one of them, but neither that of a pod whose
name ends with the deployment's nor that of a pod in a namespace that ends like the rule's. -/
theorem tails_named_pods_teams : Pipeline.teams.validate = .ok Pipeline.teams.validated ∧
    ∃ r ∈ Pipeline.teams.validated.spec.watch, r.ns = "shop" ∧ r.deployments = ["api.v2", "cart"] ∧
      r.collects (containerLog "cart-5f6d8b-x2x9z" "shop" "web-0af3") = true ∧
      r.collects (containerLog "old-cart-5f6d8b" "shop" "web-0af3") = false ∧
      r.collects (containerLog "cart-5f6d8b-x2x9z" "workshop" "web-0af3") = false := by
  have hr : Pipeline.teams.spec.watch.head (by decide) ∈ Pipeline.teams.validated.spec.watch :=
    List.mem_cons_self
  have hrest : IsNamePart "web-0af3" := by decide
  have htails {pod ns : String} (hpod : IsNamePart pod) (hns : IsNamePart ns) :=
    tails_named_pods Pipeline.validate_teams hr hpod hns hrest
  refine ⟨Pipeline.validate_teams, _, hr, rfl, rfl, ?_, ?_, ?_⟩
  · exact (htails (by decide) (by decide)).2 (by decide)
  · exact Bool.eq_false_iff.2 fun h => absurd ((htails (by decide) (by decide)).1 h) (by decide)
  · exact Bool.eq_false_iff.2 fun h => absurd ((htails (by decide) (by decide)).1 h) (by decide)

end WatchRule

end LogOperator
