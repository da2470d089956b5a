import LogTail.Source.Args

/-!
# What arguments name sources

`Item` is the grammar: the arguments that name one source. A value is cut at the first of a mark,
so the part in front of a cut holds no mark, and where an optional part is missing there is no mark
at all. For that reason a source that was read is read again when its parts are put together
(`Item.written`).

Main statement `parseArgs_grammar`: arguments are read just in case they are items one after
another, what follows is read on its own, and the sources can be written and read again.
-/

namespace LogTail

/-! ## Options -/

theorem SourceOption.ofArg?_flag (option : SourceOption) : ofArg? option.flag = some option := by
  cases option <;> rfl

theorem SourceOption.ofArg?_eq_some {arg : String} {option : SourceOption}
    (h : ofArg? arg = some option) : arg = option.flag := by
  have hflag := List.find?_some h
  exact (eq_of_beq hflag).symm

theorem SourceOption.dashed_flag (option : SourceOption) :
    "--".toList <+: option.flag.toList := by
  cases option <;> decide

theorem SourceOption.ofArg?_of_plain {arg : String} (h : ¬ "--".toList <+: arg.toList) :
    ofArg? arg = none := by
  rw [Option.eq_none_iff_forall_ne_some]
  intro option hoption
  rw [ofArg?_eq_some hoption] at h
  exact h option.dashed_flag

namespace Source

/-! ## Cutting a value -/

/-- A text is cut at the first of a mark into what stands before and behind it. -/
def CutAt (mark : Char) (text before behind : String) : Prop :=
  text = before ++ String.singleton mark ++ behind ∧ mark ∉ before.toList

/-- A part in front of the mark may be missing, and the mark with it. -/
def CutFront (mark : Char) (text : String) : Option String → String → Prop
  | some front, rest => CutAt mark text front rest
  | none, rest => rest = text ∧ mark ∉ text.toList

/-- A part behind the mark may be missing, and the mark with it. -/
def CutBack (mark : Char) (text : String) : String → Option String → Prop
  | rest, some back => CutAt mark text rest back
  | rest, none => rest = text ∧ mark ∉ text.toList

variable {mark : Char} {text : String}

theorem cut?_eq_some {cs before behind : List Char} :
    cut? mark cs = some (before, behind) ↔ cs = before ++ mark :: behind ∧ mark ∉ before := by
  induction cs generalizing before with
  | nil => simp [cut?]
  | cons c cs ih =>
    by_cases hc : c = mark
    · simp only [cut?, hc, if_true]
      constructor
      · intro h
        cases h
        simp
      · rintro ⟨h, hfirst⟩
        cases before with
        | nil => simpa using h
        | cons b before => simp_all
    · simp only [cut?, hc, if_false, Option.map_eq_some_iff, Prod.exists]
      constructor
      · rintro ⟨before', behind', h, hpair⟩
        obtain ⟨rfl, rfl⟩ := Prod.mk.inj hpair
        obtain ⟨rfl, hfirst⟩ := ih.1 h
        simp [hfirst, Ne.symm hc]
      · rintro ⟨h, hfirst⟩
        cases before with
        | nil => simp_all
        | cons b before =>
          rw [List.cons_append, List.cons.injEq] at h
          obtain ⟨rfl, h⟩ := h
          exact ⟨before, behind, ih.2 ⟨h, fun hlater => hfirst (.tail _ hlater)⟩, rfl⟩

theorem cut?_eq_none {cs : List Char} : cut? mark cs = none ↔ mark ∉ cs := by
  induction cs with
  | nil => simp [cut?]
  | cons c cs ih => by_cases hc : c = mark <;> simp [cut?, hc, ih, Ne.symm]

theorem cutAt_iff {before behind : String} : CutAt mark text before behind ↔
    cut? mark text.toList = some (before.toList, behind.toList) := by
  rw [cut?_eq_some, CutAt, ← String.toList_inj]
  simp

/-- Every text is cut in front of a mark. -/
theorem exists_cutFront (mark : Char) (text : String) :
    ∃ front rest, CutFront mark text front rest := by
  cases h : cut? mark text.toList with
  | none => exact ⟨none, text, rfl, cut?_eq_none.1 h⟩
  | some parts =>
    exact ⟨some (String.ofList parts.1), String.ofList parts.2, cutAt_iff.2 (by simp [h])⟩

/-- Every text is cut behind a mark. -/
theorem exists_cutBack (mark : Char) (text : String) :
    ∃ rest back, CutBack mark text rest back := by
  cases h : cut? mark text.toList with
  | none => exact ⟨text, none, rfl, cut?_eq_none.1 h⟩
  | some parts =>
    exact ⟨String.ofList parts.1, some (String.ofList parts.2), cutAt_iff.2 (by simp [h])⟩

theorem CutFront.cut?_eq {front : Option String} {rest : String}
    (h : CutFront mark text front rest) :
    cut? mark text.toList = front.map fun front => (front.toList, rest.toList) := by
  cases front with
  | none => exact cut?_eq_none.2 h.2
  | some front => exact cutAt_iff.1 h

theorem CutBack.cut?_eq {rest : String} {back : Option String} (h : CutBack mark text rest back) :
    cut? mark text.toList = back.map fun back => (rest.toList, back.toList) := by
  cases back with
  | none => exact cut?_eq_none.2 h.2
  | some back => exact cutAt_iff.1 h

theorem CutFront.joined {front : Option String} {rest : String}
    (h : CutFront mark text front rest) :
    front.elim "" (· ++ String.singleton mark) ++ rest = text := by
  cases front with
  | none => exact (String.empty_append).trans h.1
  | some front => exact h.1.symm

theorem CutBack.joined {rest : String} {back : Option String} (h : CutBack mark text rest back) :
    rest ++ back.elim "" (String.singleton mark ++ ·) = text := by
  cases back with
  | none => exact (String.append_empty).trans h.1
  | some back => exact (String.append_assoc).symm.trans h.1.symm

/-! ## The grammar -/

/-- The value of an option names a source. -/
inductive Names : SourceOption → String → Source → Prop where
  | docker {container : String} : Names .docker container (.docker container)
  | k8s {value rest pod : String} {ns container : Option String}
      (slash : CutFront '/' value ns rest) (colon : CutBack ':' rest pod container)
      (named : pod ≠ "") (undashed : ¬ "-".toList <+: pod.toList) :
      Names .k8s value (.k8s pod ns container)
  | ssh {value host path : String} (colon : CutAt ':' value host path)
      (host_ne : host ≠ "") (path_ne : path ≠ "") : Names .ssh value (.ssh host path)
  | http {value url selector : String} (hash : CutAt '#' value url selector)
      (selector_ne : selector ≠ "") : Names .http value (.http url (some selector))
  /-- An empty selector is none. -/
  | unselected {value url : String} (hash : CutAt '#' value url "") :
      Names .http value (.http url none)
  | whole {url : String} (hash : '#' ∉ url.toList) : Names .http url (.http url none)

/-- Some arguments name one source. -/
inductive Item : List String → Source → Prop where
  | file {path : String} (plain : ¬ "--".toList <+: path.toList) : Item [path] (.file path)
  | option {option : SourceOption} {value : String} {source : Source}
      (names : Names option value source) : Item [option.flag, value] source

/-- Arguments are items one after another, each of which names one of the sources. -/
inductive Reads : List String → List Source → Prop where
  | nil : Reads [] []
  | cons {item args : List String} {source : Source} {sources : List Source}
      (first : Item item source) (rest : Reads args sources) :
      Reads (item ++ args) (source :: sources)

/-! ## Values -/

theorem podNameError?_eq_none {pod : String} :
    podNameError? pod = none ↔ pod ≠ "" ∧ ¬ "-".toList <+: pod.toList := by
  have hempty : pod = "" ↔ pod.toList = [] := by simp
  rw [podNameError?, ne_eq, hempty]
  generalize pod.toList = cs
  split
  · simp
  · simp
  · rename_i hne hundashed
    cases cs with
    | nil => exact absurd rfl hne
    | cons c cs => simpa using fun h => hundashed cs (by rw [h])

theorem ofPod_of_cut {value rest pod : String} {ns container : Option String}
    (slash : CutFront '/' value ns rest) (colon : CutBack ':' rest pod container) :
    ofPod value =
      ((podNameError? pod).map .podName).elim (.ok (.k8s pod ns container)) .error := by
  have hslash := slash.cut?_eq
  have hcolon := colon.cut?_eq
  cases ns with
  | none =>
    obtain rfl := slash.1
    cases container with
    | none =>
      obtain rfl := colon.1
      simp only [ofPod, hslash, hcolon, Option.map_none, String.ofList_toList]
      cases podNameError? pod <;> rfl
    | some container =>
      simp only [ofPod, hslash, hcolon, Option.map_none, Option.map_some, String.ofList_toList]
      cases podNameError? pod <;> rfl
  | some ns =>
    cases container with
    | none =>
      obtain rfl := colon.1
      simp only [ofPod, hslash, hcolon, Option.map_none, Option.map_some, String.ofList_toList]
      cases podNameError? pod <;> rfl
    | some container =>
      simp only [ofPod, hslash, hcolon, Option.map_some, String.ofList_toList]
      cases podNameError? pod <;> rfl

theorem ofPod_eq_ok {value : String} {source : Source} :
    ofPod value = .ok source ↔ Names .k8s value source := by
  constructor
  · intro h
    obtain ⟨ns, rest, hslash⟩ := exists_cutFront '/' value
    obtain ⟨pod, container, hcolon⟩ := exists_cutBack ':' rest
    rw [ofPod_of_cut hslash hcolon] at h
    cases hname : podNameError? pod with
    | some error =>
      rw [hname] at h
      cases h
    | none =>
      rw [hname] at h
      cases h
      obtain ⟨hnamed, hundashed⟩ := podNameError?_eq_none.1 hname
      exact .k8s hslash hcolon hnamed hundashed
  · rintro (_ | ⟨hslash, hcolon, hnamed, hundashed⟩)
    rw [ofPod_of_cut hslash hcolon, podNameError?_eq_none.2 ⟨hnamed, hundashed⟩]
    rfl

theorem ofRemote_eq_ok {value : String} {source : Source} :
    ofRemote value = .ok source ↔ Names .ssh value source := by
  constructor
  · intro h
    unfold ofRemote at h
    split at h
    · rename_i hcut
      cases h
      exact .ssh (cutAt_iff.2 (by simpa using hcut)) (by simp) (by simp)
    · cases h
  · intro h
    cases h with
    | @ssh _ host path hcolon hhost hpath =>
      obtain ⟨h, hs, heq⟩ := List.exists_cons_of_ne_nil (mt String.toList_eq_nil_iff.1 hhost)
      obtain ⟨p, ps, heq'⟩ := List.exists_cons_of_ne_nil (mt String.toList_eq_nil_iff.1 hpath)
      have hcut := cutAt_iff.1 hcolon
      rw [heq, heq'] at hcut
      simp only [ofRemote, hcut]
      rw [← heq, ← heq', String.ofList_toList, String.ofList_toList]

theorem ofEndpoint_eq {value : String} {source : Source} :
    ofEndpoint value = source ↔ Names .http value source := by
  constructor
  · rintro rfl
    unfold ofEndpoint
    split
    · rename_i hcut
      exact .unselected (cutAt_iff.2 (by simpa using hcut))
    · rename_i hne hcut
      refine .http (cutAt_iff.2 (by simpa using hcut)) ?_
      simpa using hne
    · rename_i hcut
      exact .whole (cut?_eq_none.1 hcut)
  · intro h
    cases h with
    | @http _ url selector hhash hselector =>
      obtain ⟨c, cs, heq⟩ := List.exists_cons_of_ne_nil (mt String.toList_eq_nil_iff.1 hselector)
      have hcut := cutAt_iff.1 hhash
      rw [heq] at hcut
      simp only [ofEndpoint, hcut]
      rw [← heq, String.ofList_toList, String.ofList_toList]
    | unselected hhash => simp [ofEndpoint, cutAt_iff.1 hhash]
    | whole hhash => simp [ofEndpoint, cut?_eq_none.2 hhash]

/-- **A value is read just in case it names a source.** -/
theorem ofOption_eq_ok {value : String} {option : SourceOption} {source : Source} :
    ofOption value option = .ok source ↔ Names option value source := by
  cases option with
  | docker =>
    rw [ofOption, Except.ok.injEq]
    constructor
    · rintro rfl
      exact .docker
    · rintro ⟨⟩
      rfl
  | k8s => exact ofPod_eq_ok
  | ssh => exact ofRemote_eq_ok
  | http => rw [ofOption, Except.ok.injEq, ofEndpoint_eq]

/-! ## Items -/

/-- Arguments behind an item are read on their own. -/
theorem Item.parseArgs_append {args : List String} {source : Source} (h : Item args source)
    (more : List String) : parseArgs (args ++ more) = (parseArgs more).map (source :: ·) := by
  cases h with
  | @file path plain =>
    have hplain : path.startsWith "--" = false :=
      Bool.eq_false_iff.2 fun h => plain (String.startsWith_string_iff.1 h)
    rw [List.singleton_append, parseArgs, if_neg (by simp [hplain])]
    · cases parseArgs more <;> rfl
    · simp [SourceOption.ofArg?_of_plain plain]
  | option names =>
    rw [List.cons_append, List.singleton_append, parseArgs, ofOption_eq_ok.2 names]
    · cases parseArgs more <;> rfl
    · exact SourceOption.ofArg?_flag _

/-- A source that was read is written in a way that names it. -/
theorem Item.written {args : List String} {source : Source} (h : Item args source) :
    Item source.toArgs source := by
  cases h with
  | file plain => exact .file plain
  | @option _ value _ names =>
    cases names with
    | docker => exact .option .docker
    | @k8s _ rest pod ns container slash colon named undashed =>
      have hvalue : ns.elim "" (· ++ "/") ++ pod ++ container.elim "" (":" ++ ·) = value := by
        rw [String.append_assoc]
        exact (congrArg _ colon.joined).trans slash.joined
      rw [toArgs, hvalue]
      exact .option (.k8s slash colon named undashed)
    | @ssh _ host path colon host_ne path_ne =>
      have hvalue : host ++ ":" ++ path = value := colon.1.symm
      rw [toArgs, hvalue]
      exact .option (.ssh colon host_ne path_ne)
    | @http _ url selector hash selector_ne =>
      have hvalue : url ++ ("#" ++ selector) = value := String.append_assoc.symm.trans hash.1.symm
      rw [toArgs, Option.elim_some, hvalue]
      exact .option (.http hash selector_ne)
    | unselected hash =>
      rw [toArgs, Option.elim_none, String.append_empty]
      exact .option (.whole hash.2)
    | whole hash =>
      rw [toArgs, Option.elim_none, String.append_empty]
      exact .option (.whole hash)

/-- A source that was read can be fetched from. -/
theorem Item.fault?_eq_none {args : List String} {source : Source} (h : Item args source) :
    source.fault? = none := by
  cases h with
  | file plain => rfl
  | option names =>
    cases names with
    | k8s slash colon named undashed =>
      rw [Source.fault?, podNameError?_eq_none.2 ⟨named, undashed⟩]
      rfl
    | _ => rfl

/-! ## Rows of items -/

variable {args : List String} {sources : List Source}

theorem reads_of_parseArgs (args : List String) :
    ∀ sources, parseArgs args = .ok sources → Reads args sources := by
  fun_induction parseArgs args with
  | case1 =>
    intro sources h
    cases h
    exact .nil
  | case2 arg option harg =>
    intro sources h
    cases h
  | case3 arg option value rest harg ih =>
    intro sources h
    obtain rfl := SourceOption.ofArg?_eq_some harg
    cases hsource : ofOption value option with
    | error e => rw [hsource] at h; cases h
    | ok source =>
      cases hrest : parseArgs rest with
      | error e => rw [hsource, hrest] at h; cases h
      | ok later =>
        rw [hsource, hrest] at h
        cases h
        exact .cons (.option (ofOption_eq_ok.1 hsource)) (ih _ hrest)
  | case4 arg rest harg hdashed =>
    intro sources h
    cases h
  | case5 arg rest harg hplain ih =>
    intro sources h
    cases hrest : parseArgs rest with
    | error e => rw [hrest] at h; cases h
    | ok later =>
      rw [hrest] at h
      cases h
      have hfile : Item [arg] (.file arg) :=
        .file fun hdashed => hplain (String.startsWith_string_iff.2 hdashed)
      exact .cons hfile (ih _ hrest)

/-- What comes behind arguments that were read is read on its own. -/
theorem Reads.parseArgs_append (h : Reads args sources) (more : List String) :
    parseArgs (args ++ more) = (parseArgs more).map (sources ++ ·) := by
  induction h with
  | nil => cases h : parseArgs more <;> simp [h, Except.map]
  | cons first rest ih =>
    rw [List.append_assoc, first.parseArgs_append, ih]
    cases parseArgs more <;> rfl

theorem parseArgs_eq_ok : parseArgs args = .ok sources ↔ Reads args sources := by
  refine ⟨reads_of_parseArgs args sources, fun h => ?_⟩
  have hend := h.parseArgs_append []
  rw [List.append_nil] at hend
  rw [hend, parseArgs, Except.map, List.append_nil]

theorem Reads.written (h : Reads args sources) : Reads (sources.flatMap toArgs) sources := by
  induction h with
  | nil => exact .nil
  | cons first rest ih => exact .cons first.written ih

theorem Reads.fault?_eq_none (h : Reads args sources) :
    ∀ source ∈ sources, source.fault? = none := by
  induction h with
  | nil => simp
  | cons first rest ih => exact List.forall_mem_cons.2 ⟨first.fault?_eq_none, ih⟩

/-- **Arguments are read just in case they are items one after another**, and then name the sources
of the items in order. What comes behind them is read on its own, fault or not; the sources read
again when they are written; and each of them can be fetched from. -/
theorem parseArgs_grammar (args : List String) (sources : List Source) :
    (parseArgs args = .ok sources ↔ Reads args sources) ∧
    (parseArgs args = .ok sources →
      (∀ more, parseArgs (args ++ more) = (parseArgs more).map (sources ++ ·)) ∧
      parseArgs (sources.flatMap toArgs) = .ok sources ∧
      ∀ source ∈ sources, source.fault? = none) := by
  refine ⟨parseArgs_eq_ok, fun h => ?_⟩
  have hreads := parseArgs_eq_ok.1 h
  exact ⟨hreads.parseArgs_append, parseArgs_eq_ok.2 hreads.written, hreads.fault?_eq_none⟩

/-- Marks come again behind the first one, a selector is empty, and an option is the value of
another. -/
theorem parseArgs_grammar_marks :
    let args := ["-f", "--k8s", "a:b//c:d:e", "--http", "u#", "--docker", "--ssh"]
    let sources := [.file "-f", .k8s "/c" (some "a:b") (some "d:e"), .http "u" none,
      .docker "--ssh"]
    parseArgs args = .ok sources ∧ parseArgs (sources.flatMap toArgs) = .ok sources ∧
    parseArgs (args ++ ["--ssh", "h"]) = .error (.notHostAndPath "h") := by
  intro args sources
  have hfile : Item ["-f"] (.file "-f") := .file (by decide)
  have hargs : parseArgs args = .ok sources := (hfile.parseArgs_append _).trans rfl
  obtain ⟨hmore, hwritten, -⟩ := (parseArgs_grammar args sources).2 hargs
  exact ⟨hargs, hwritten, (hmore ["--ssh", "h"]).trans rfl⟩

end Source

end LogTail
