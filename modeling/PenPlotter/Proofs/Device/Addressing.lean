import PenPlotter.Device.Interface
import PenPlotter.Proofs.Json.Printer
import PenPlotter.Proofs.Text.WellFormed
import PenPlotter.Proofs.Url.Continued
import PenPlotter.Proofs.Url.Percent

/-! # Where a project is plotted

The name of a project is put into the address of its request as it is, and the address is read like
any other: the name is one segment of the path only if nothing in it ends a segment, leads elsewhere
or stands for another byte (`IsSegment`).  That this is needed is an argument about lengths.  The
segment that stands for the name is one that was entered for it, so it is written with characters
of the name; as many bytes as the name has are left only if it is all of the name. -/

namespace PenPlotter

open Text

/-! ### Names as segments -/

theorem Utf8.bytes_injective : Function.Injective Utf8.bytes := fun _ _ h =>
  Option.some.inj ((Utf8.text?_eq_some_iff.2 rfl).symm.trans (Utf8.text?_eq_some_iff.2 h.symm))

/-- A segment of a path that stands for a name: its bytes once it is decoded. -/
def StandsFor (segment name : String) : Prop :=
  Percent.decodeBytes (Utf8.bytes segment) = Utf8.bytes name

instance (segment name : String) : Decidable (StandsFor segment name) :=
  inferInstanceAs (Decidable (_ = _))

theorem StandsFor.unique {segment name name' : String} (h : StandsFor segment name)
    (h' : StandsFor segment name') : name = name' :=
  Utf8.bytes_injective (h.symm.trans h')

/-- The characters that end a segment or are left out of an address. -/
def segmentBreakers : List Char := ['/', '\\', '?', '#', '\t', '\n', '\r']

/-- A name that can be put into a path as it is. -/
structure IsSegment (name : String) : Prop where
  whole : ∀ c ∈ name.toList, c ∉ segmentBreakers
  stays : name ≠ "." ∧ name ≠ ".."
  literal : StandsFor name name

theorem isSegment_iff {name : String} : IsSegment name ↔
    name.toList.all (· ∉ segmentBreakers) = true ∧ (name ≠ "." ∧ name ≠ "..") ∧
      StandsFor name name := by
  rw [List.all_eq_true]
  constructor
  · intro h
    exact ⟨fun c hc => decide_eq_true (h.whole c hc), h.stays, h.literal⟩
  · rintro ⟨hwhole, hstays, hliteral⟩
    exact ⟨fun c hc => of_decide_eq_true (hwhole c hc), hstays, hliteral⟩

instance (name : String) : Decidable (IsSegment name) := decidable_of_iff' _ isSegment_iff

-- A percent sign stays as it is unless two digits follow.
example : IsSegment "100% Ø" ∧ ¬IsSegment "../plotter/stop?" ∧ ¬IsSegment "%41" := by
  decide +kernel

/-- An address behind another one: its path, but for empty segments at its end, and segments that
stand for the given names. -/
def Url.Extends (base u : Url) (names : List String) : Prop :=
  u.query = none ∧ ∃ front segments m, base.path = front ++ List.replicate m "" ∧
    u.path = front ++ segments ∧ List.Forall₂ StandsFor segments names

/-! ### Lengths in bytes -/

theorem eq_of_sublist_of_bytes_le {xs ys : List Char} (h : xs.Sublist ys)
    (hlength : (ys.flatMap String.utf8EncodeChar).length ≤
      (xs.flatMap String.utf8EncodeChar).length) : xs = ys := by
  induction h with
  | slnil => rfl
  | cons c h ih =>
    exfalso
    have hle := (h.flatMap String.utf8EncodeChar).length_le
    have hpos : 0 < (String.utf8EncodeChar c).length := by
      rw [String.length_utf8EncodeChar]
      exact c.utf8Size_pos
    rw [List.flatMap_cons, List.length_append] at hlength
    omega
  | cons_cons c h ih =>
    rw [List.flatMap_cons, List.flatMap_cons, List.length_append, List.length_append] at hlength
    rw [ih (by omega)]

theorem length_bytes_map_straighten (xs : List Char) :
    ((xs.map Url.straighten).flatMap String.utf8EncodeChar).length =
      (xs.flatMap String.utf8EncodeChar).length := by
  induction xs with
  | nil => rfl
  | cons c xs ih =>
    have hc : (String.utf8EncodeChar (Url.straighten c)).length =
        (String.utf8EncodeChar c).length := by
      rw [Url.straighten]
      split
      · rename_i h
        subst h
        decide
      · rfl
    simp only [List.map_cons, List.flatMap_cons, List.length_append, ih, hc]

namespace Url

/-! ### The segments of an endpoint -/

theorem mem_pieces {segment : String} {xs : List Char} (h : segment ∈ pieces xs) :
    ∃ part, segment = Percent.encode Percent.escapesInPath (String.ofList part) ∧
      part.Sublist (xs.map straighten) ∧ '/' ∉ part := by
  obtain ⟨part, hpart, rfl⟩ := List.mem_map.1 h
  exact ⟨part, rfl, sublist_of_mem_splitAt hpart⟩

theorem pieces_of_notMem {xs : List Char} (h : ∀ c ∈ xs, c ∉ segmentBreakers) :
    pieces xs = [Percent.encode Percent.escapesInPath (String.ofList xs)] := by
  have hstraight : xs.map straighten = xs := by
    refine (List.map_congr_left fun c hc => ?_).trans (List.map_id xs)
    exact if_neg fun heq => h c hc (by simp [heq, segmentBreakers])
  rw [pieces, hstraight, splitAt_of_notMem fun hmem => h _ hmem (by simp [segmentBreakers])]
  rfl

theorem notMem_segmentBreakers {c : Char} (hkept : isKept c = true) (hmarks : c ≠ '#' ∧ c ≠ '?')
    (hslash : straighten c ≠ '/') : straighten c = c ∧ c ∉ segmentBreakers := by
  have hback : c ≠ '\\' := fun heq => hslash (if_pos heq)
  have hstraight : straighten c = c := if_neg hback
  rw [hstraight] at hslash
  simp only [isKept, Bool.and_eq_true, bne_iff_ne] at hkept
  simp [segmentBreakers, hstraight, hslash, hback, hmarks, hkept]

theorem mem_addedPath {c : Char} {xs : List Char} (h : c ∈ addedPath xs) :
    c ∈ xs ∧ c ≠ '#' ∧ c ≠ '?' := by
  have hfragment := (List.takeWhile_sublist _).mem h
  exact ⟨(List.takeWhile_sublist _).mem hfragment, by simpa using List.mem_takeWhile_imp hfragment,
    by simpa using List.mem_takeWhile_imp h⟩

theorem addedPath_prefix (xs : List Char) : addedPath xs <+: xs :=
  (List.takeWhile_prefix _).trans (List.takeWhile_prefix _)

/-- The part of an endpoint behind the name of the project. -/
def runChars : List Char := ['r', 'u', 'n']

/-- A segment that is written with characters of a name. -/
def WrittenFrom (name : List Char) (segment : String) : Prop :=
  ∃ part, segment = Percent.encode Percent.escapesInPath (String.ofList part) ∧
    part.Sublist (name.map straighten) ∧ ∀ c ∈ part, c ∉ segmentBreakers

theorem writtenFrom_of_mem_pieces {name xs : List Char} {segment : String} (hsub : xs.Sublist name)
    (hxs : ∀ c ∈ xs, isKept c = true ∧ c ≠ '#' ∧ c ≠ '?') (h : segment ∈ pieces xs) :
    WrittenFrom name segment := by
  obtain ⟨part, rfl, hpart, hslash⟩ := mem_pieces h
  refine ⟨part, rfl, hpart.trans (hsub.map straighten), fun c hc => ?_⟩
  obtain ⟨c', hc', rfl⟩ := List.mem_map.1 (hpart.mem hc)
  obtain ⟨hkept, hmarks⟩ := hxs c' hc'
  obtain ⟨heq, hno⟩ := notMem_segmentBreakers hkept hmarks fun heq => hslash (heq ▸ hc)
  rwa [heq]

/-- What is added for a project ends within its name, or goes on behind it. -/
theorem addedPath_cases (name : List Char) :
    addedPath (name ++ '/' :: runChars) <+: name ∨ ∃ rest,
      addedPath (name ++ '/' :: runChars) = name ++ '/' :: rest ∧ rest <+: runChars := by
  have hprefix := addedPath_prefix (name ++ '/' :: runChars)
  rcases List.prefix_or_prefix_of_prefix hprefix (List.prefix_append _ _) with h | ⟨rest, hrest⟩
  · exact .inl h
  rw [← hrest] at hprefix ⊢
  cases rest with
  | nil =>
    rw [List.append_nil]
    exact .inl (List.prefix_refl name)
  | cons c rest =>
    rw [List.prefix_append_right_inj, List.cons_prefix_cons] at hprefix
    obtain ⟨rfl, hrun⟩ := hprefix
    exact .inr ⟨rest, rfl, hrun⟩

/-- All that is written in a path for a project, but for the last segment, is written from its
name. -/
theorem exists_pieces (name : List Char) : ∃ segments last,
    pieces (addedPath (name.filter isKept ++ '/' :: runChars)) = segments ++ [last] ∧
      ∀ segment ∈ segments, WrittenFrom name segment := by
  have hchars : ∀ c ∈ addedPath (name.filter isKept ++ '/' :: runChars),
      isKept c = true ∧ c ≠ '#' ∧ c ≠ '?' := by
    intro c hc
    obtain ⟨hmem, hmarks⟩ := mem_addedPath hc
    refine ⟨?_, hmarks⟩
    rcases List.mem_append.1 hmem with hmem | hmem
    · exact (List.mem_filter.1 hmem).2
    · have hall : ∀ c ∈ '/' :: runChars, isKept c = true := by simp [runChars, isKept]
      exact hall c hmem
  rcases addedPath_cases (name.filter isKept) with hcut | ⟨rest, hrest, hrun⟩
  · obtain ⟨segments, last, hlast⟩ := (List.eq_nil_or_concat' _).resolve_left
      (pieces_ne_nil (addedPath (name.filter isKept ++ '/' :: runChars)))
    refine ⟨segments, last, hlast, fun segment hsegment => ?_⟩
    apply writtenFrom_of_mem_pieces (hcut.sublist.trans List.filter_sublist) hchars
    rw [hlast]
    exact List.mem_append_left _ hsegment
  · have hno : ∀ c ∈ runChars, c ∉ segmentBreakers := by simp [runChars, segmentBreakers]
    rw [hrest] at hchars ⊢
    refine ⟨pieces (name.filter isKept),
      Percent.encode Percent.escapesInPath (String.ofList rest), ?_, fun segment hsegment => ?_⟩
    · rw [pieces_append_slash, pieces_of_notMem fun c hc => hno c (hrun.subset hc)]
    · exact writtenFrom_of_mem_pieces List.filter_sublist
        (fun c hc => hchars c (List.mem_append_left _ hc)) hsegment

/-- The address of a project behind what was entered for the base address. -/
def behind (base : Url) (entered : List String) (project : List Char) : Url :=
  let added := project.filter isKept ++ '/' :: runChars
  { base with
    path := resolve ("projects" :: entered) (pieces (addedPath added))
    query := addedQuery added }

variable {base : Url} {entered : List String} {m : ℕ} {project : String}

theorem standsFor_encode (name : String) {project : String} :
    StandsFor (Percent.encode Percent.escapesInPath name) project ↔ StandsFor name project := by
  rw [StandsFor, Percent.decodeBytes_encode, StandsFor]

/-- Dots stand for themselves however they are encoded, and are not encoded in a path. -/
theorem standsFor_dots :
    (∀ segment ∈ [".", "%2e", "%2E"], StandsFor segment ".") ∧
    (∀ segment ∈ ["..", "%2e%2e", "%2e%2E", "%2E%2e", "%2E%2E", "%2e.", "%2E.", ".%2e", ".%2E"],
      StandsFor segment "..") ∧
    isHere (Percent.encode Percent.escapesInPath ".") = true ∧
    isAbove (Percent.encode Percent.escapesInPath "..") = true := by
  decide +kernel

theorem standsFor_of_isAbove {segment : String} (h : isAbove segment = true) :
    StandsFor segment ".." :=
  standsFor_dots.2.1 segment (List.contains_iff_mem.1 h)

theorem standsFor_of_isHere {segment : String} (h : isHere segment = true) :
    StandsFor segment "." :=
  standsFor_dots.1 segment (List.contains_iff_mem.1 h)

theorem isProper_encode (h : IsSegment project) :
    IsProper (Percent.encode Percent.escapesInPath project) := by
  have hname := (standsFor_encode project).2 h.literal
  constructor
  · rw [Bool.eq_false_iff]
    exact fun habove => h.stays.2 (hname.unique (standsFor_of_isAbove habove))
  · rw [Bool.eq_false_iff]
    exact fun hhere => h.stays.1 (hname.unique (standsFor_of_isHere hhere))

/-- **A segment** that is written from a name and stands for it is all of the name. -/
theorem isSegment_of_standsFor {segment : String} (h : WrittenFrom project.toList segment)
    (hproper : IsProper segment) (hstands : StandsFor segment project) : IsSegment project := by
  obtain ⟨part, rfl, hsub, hpart⟩ := h
  rw [standsFor_encode] at hstands
  have hle : ((project.toList.map straighten).flatMap String.utf8EncodeChar).length ≤
      (part.flatMap String.utf8EncodeChar).length := by
    rw [length_bytes_map_straighten, ← Utf8.bytes_eq, ← hstands, ← Utf8.bytes_ofList]
    exact Percent.length_decodeBytes_le _
  obtain rfl := eq_of_sublist_of_bytes_le hsub hle
  have hchars : ∀ c ∈ project.toList, straighten c = c ∧ c ∉ segmentBreakers := by
    intro c hc
    have hno := hpart _ (List.mem_map_of_mem hc)
    have hback : c ≠ '\\' := by
      rintro rfl
      exact hno (by decide)
    rw [straighten, if_neg hback] at hno ⊢
    exact ⟨rfl, hno⟩
  have hname : project.toList.map straighten = project.toList :=
    (List.map_congr_left fun c hc => (hchars c hc).1).trans (List.map_id _)
  rw [hname, String.ofList_toList] at hstands hproper
  obtain ⟨-, -, hhere, habove⟩ := standsFor_dots
  refine ⟨fun c hc => (hchars c hc).2, ⟨?_, ?_⟩, hstands⟩
  · rintro rfl
    exact absurd (hproper.2.symm.trans hhere) Bool.false_ne_true
  · rintro rfl
    exact absurd (hproper.1.symm.trans habove) Bool.false_ne_true

/-- The names in the address of a request are segments, written as they are, and so is the empty
name. -/
theorem isSegment_fixed : IsSegment "projects" ∧ IsSegment "run" ∧ IsSegment "" ∧
    pieces "projects".toList = ["projects"] ∧ pieces runChars = ["run"] := by
  decide +kernel

theorem behind_of_isSegment (h : IsSegment project) :
    (behind base entered project.toList).query = none ∧
      (behind base entered project.toList).path = entered.reverse ++
        ["projects", Percent.encode Percent.escapesInPath project, "run"] := by
  have hno : ∀ c ∈ project.toList ++ '/' :: runChars, c ≠ '#' ∧ c ≠ '?' := by
    intro c hc
    rcases List.mem_append.1 hc with hc | hc
    · have hwhole := h.whole c hc
      simp only [segmentBreakers, List.mem_cons, not_or] at hwhole
      exact ⟨hwhole.2.2.2.1, hwhole.2.2.1⟩
    · have hall : ∀ c ∈ '/' :: runChars, c ≠ '#' ∧ c ≠ '?' := by simp [runChars]
      exact hall c hc
  have hkept : project.toList.filter isKept = project.toList := by
    refine List.filter_eq_self.2 fun c hc => ?_
    have hwhole := h.whole c hc
    simp only [segmentBreakers, List.mem_cons, not_or] at hwhole
    simp [isKept, hwhole]
  have hfragment : (project.toList ++ '/' :: runChars).takeWhile (· != '#') =
      project.toList ++ '/' :: runChars :=
    List.takeWhile_eq_self_iff.2 fun c hc => bne_iff_ne.2 (hno c hc).1
  have hquery : ∀ c ∈ project.toList ++ '/' :: runChars, (c != '?') = true :=
    fun c hc => bne_iff_ne.2 (hno c hc).2
  have hpieces : pieces (project.toList ++ '/' :: runChars) =
      [Percent.encode Percent.escapesInPath project] ++ ["run"] := by
    obtain ⟨-, -, -, -, hrun⟩ := isSegment_fixed
    rw [pieces_append_slash, pieces_of_notMem h.whole, String.ofList_toList, hrun]
  simp only [behind, hkept, addedQuery, addedPath, hfragment,
    List.takeWhile_eq_self_iff.2 hquery, List.dropWhile_eq_nil_iff.2 hquery, hpieces]
  rw [resolve_append _ _ (by simp), List.foldl_cons, List.foldl_nil,
    enter_of_isProper (isProper_encode h)]
  have hrun : IsProper "run" := by
    constructor <;> decide
  simp [resolve, hrun.1, hrun.2]

/-- What was entered last: a segment of the project, or what the endpoint begins with, or an empty
segment of the base address. -/
theorem Over.top_cases {segments front : List String} {top below : String} {k : ℕ}
    (hover : Over ("projects" :: entered) segments (top :: below :: front.reverse))
    (hbase : entered.reverse ++ List.replicate m "" = front ++ List.replicate k "") :
    (top ∈ segments ∧ IsProper top) ∨ top = "projects" ∨ top = "" := by
  obtain ⟨pushed, n, heq, hpushed⟩ := hover
  cases pushed with
  | cons segment pushed =>
    obtain ⟨rfl, -⟩ := List.cons.inj heq
    exact .inl (hpushed top List.mem_cons_self)
  | nil =>
    cases n with
    | zero => exact .inr (.inl (List.cons.inj heq).1)
    | succ n =>
      -- all that the base address has behind the front is empty
      have hdrop : entered.drop n = top :: below :: front.reverse := heq.symm
      have hentered : entered.reverse = front ++ ([below, top] ++ (entered.take n).reverse) := by
        conv_lhs => rw [← List.take_append_drop n entered, hdrop]
        simp
      rw [hentered, List.append_assoc] at hbase
      have hempty : top ∈ List.replicate k "" := by
        rw [← List.append_cancel_left hbase]
        simp
      exact .inr (.inr (List.eq_of_mem_replicate hempty))

theorem isSegment_of_extends (hbase : base.path = entered.reverse ++ List.replicate m "")
    (h : Extends base (behind base entered project.toList) ["projects", project, "run"]) :
    IsSegment project := by
  obtain ⟨segments, last, hpieces, hwritten⟩ := exists_pieces project.toList
  obtain ⟨stack, segment, hpath, hover⟩ := exists_resolve_eq ("projects" :: entered) segments last
  obtain ⟨-, front, names, k, hfront, hnames, hstands⟩ := h
  obtain ⟨first, second, third, rfl, hsecond⟩ : ∃ first second third,
      names = [first, second, third] ∧ StandsFor second project := by
    rcases hstands with _ | ⟨-, _ | ⟨hsecond, _ | ⟨-, ⟨⟩⟩⟩⟩
    exact ⟨_, _, _, rfl, hsecond⟩
  -- the segment in front of the last one was entered last
  have hwhole : stack.reverse ++ [segment] = front ++ [first, second] ++ [third] := by
    rw [← hpath, ← hpieces, List.append_assoc]
    exact hnames
  have hstack : stack = second :: first :: front.reverse := by
    rw [← List.reverse_reverse stack, List.append_inj_left' hwhole rfl]
    simp
  rw [hstack] at hover
  rcases hover.top_cases (hbase.symm.trans hfront) with ⟨hmem, hproper⟩ | rfl | rfl
  · exact isSegment_of_standsFor (hwritten second hmem) hproper hsecond
  · obtain ⟨hprojects, -, -⟩ := isSegment_fixed
    obtain rfl := hsecond.unique hprojects.literal
    exact hprojects
  · obtain ⟨-, -, hnothing, -⟩ := isSegment_fixed
    obtain rfl := hsecond.unique hnothing.literal
    exact hnothing

end Url

namespace DeviceInterface

variable {base : String} {d : DeviceInterface}

theorem exists_of_new? (h : new? base = .ok d) :
    ∃ u, Url.ofString? base = some u ∧ d.baseUrl = String.ofList (Url.trimmed base) := by
  rw [new?] at h
  split at h
  · rename_i u hu
    cases h
    exact ⟨_, hu, rfl⟩
  · rename_i u hu
    cases h
    exact ⟨_, hu, rfl⟩
  · cases h

/-- What stands in an endpoint in front of the name of the project. -/
def projectsChars : List Char := ['p', 'r', 'o', 'j', 'e', 'c', 't', 's', '/']

theorem exists_body_runFile (project file : String) : ∃ text,
    (DeviceCall.runFile project file).body?.map Json.compact = some text ∧
      (Json.Tree.ofString? text).bind Json.Tree.value? =
        some (.object [("file_name", .string file)]) := by
  refine ⟨_, rfl, ?_⟩
  rw [Json.ofString?_compact]
  rfl

theorem ofString?_runFile (hd : new? base = .ok d) {u : Url} (hu : Url.ofString? base = some u)
    (hplain : Url.IsPlain base) (hend : Url.EndsClean base) :
    ∃ entered m, u.path = entered.reverse ++ List.replicate m "" ∧ ∀ project file,
      Url.ofString? (d.baseUrl ++ (DeviceCall.runFile project file).endpoint) =
        some (u.behind entered project.toList) := by
  obtain ⟨u', hu', hbase⟩ := exists_of_new? hd
  obtain ⟨-, entered, m, hpath, hcontinued⟩ := Url.ofString?_continued hu hplain hend
  refine ⟨entered, m, hpath, fun project file => ?_⟩
  have htext : d.baseUrl ++ (DeviceCall.runFile project file).endpoint =
      String.ofList (Url.trimmed base ++
        '/' :: (projectsChars ++ (project.toList ++ '/' :: Url.runChars))) := by
    rw [hbase, ← String.toList_inj]
    simp [DeviceCall.endpoint, projectsChars, Url.runChars]
  have hlast : (projectsChars ++ (project.toList ++ '/' :: Url.runChars)).getLast? = some 'n' := by
    simp [Url.runChars]
  have hkept : (projectsChars ++ (project.toList ++ '/' :: Url.runChars)).filter Url.isKept =
      projectsChars ++ (project.toList.filter Url.isKept ++ '/' :: Url.runChars) := by
    rw [List.filter_append, List.filter_append]
    rfl
  have hmarks : ∀ c ∈ projectsChars, c ≠ '?' ∧ c ≠ '#' := by simp [projectsChars]
  have hprojects : ∀ cs, Url.pieces (projectsChars ++ cs) = ["projects"] ++ Url.pieces cs := by
    intro cs
    obtain ⟨-, -, -, hname, -⟩ := Url.isSegment_fixed
    rw [← hname, ← Url.pieces_append_slash]
    rfl
  have hproper : Url.IsProper "projects" := by
    constructor <;> decide
  rw [htext, hcontinued _ ⟨'n', hlast, by decide⟩, hkept, Url.addedPath_append hmarks,
    Url.addedQuery_append hmarks, hprojects, Url.resolve_append _ _ (Url.pieces_ne_nil _),
    List.foldl_cons, List.foldl_nil, Url.enter_of_isProper hproper]
  rfl

/-- **Where a project is plotted.**  The request goes to the host of the base address.  It goes to
the project exactly if the name of the project is a segment as it is written: otherwise the name is
taken apart, resolved, cut off or decoded as the part of an address that it becomes. -/
theorem runFile_extends_iff (hd : new? base = .ok d) (hplain : Url.IsPlain base)
    (hend : Url.EndsClean base) (project file : String) :
    ∃ u v text, Url.ofString? base = some u ∧
      Url.ofString? (d.baseUrl ++ (DeviceCall.runFile project file).endpoint) = some v ∧
      d.request? (.runFile project file) = (if v.target.utf8ByteSize ≤ maxTargetLength then
        some ⟨.post, v.target, some text⟩ else none) ∧
      (Json.Tree.ofString? text).bind Json.Tree.value? =
        some (.object [("file_name", .string file)]) ∧
      (v.scheme = u.scheme ∧ v.host = u.host ∧ v.port = u.port) ∧
      (u.Extends v ["projects", project, "run"] ↔ IsSegment project) := by
  obtain ⟨u, hu, -⟩ := exists_of_new? hd
  obtain ⟨text, hbody, hfile⟩ := exists_body_runFile project file
  obtain ⟨entered, m, hpath, hv⟩ := ofString?_runFile hd hu hplain hend
  refine ⟨u, _, text, hu, hv project file, ?_, hfile, ⟨rfl, rfl, rfl⟩, ?_⟩
  · rw [request?, hv, hbody, Option.filter_some]
    by_cases hlength : (u.behind entered project.toList).target.utf8ByteSize ≤ maxTargetLength
    · rw [if_pos (decide_eq_true hlength), if_pos hlength]
      rfl
    · rw [if_neg (by simpa using hlength), if_neg hlength]
      rfl
  · constructor
    · exact Url.isSegment_of_extends hpath
    · intro h
      obtain ⟨hquery, hnames⟩ : (u.behind entered project.toList).query = none ∧
          (u.behind entered project.toList).path = entered.reverse ++
            ["projects", Percent.encode Percent.escapesInPath project, "run"] :=
        Url.behind_of_isSegment h
      refine ⟨hquery, entered.reverse, _, m, hpath, hnames, ?_⟩
      obtain ⟨hprojects, hrun, -⟩ := Url.isSegment_fixed
      exact .cons hprojects.literal
        (.cons ((Url.standsFor_encode project).2 h.literal) (.cons hrun.literal .nil))

/-- A slash at the end of the base address, a space, a letter outside ASCII and a percent sign
without digits do no harm. -/
theorem runFile_extends_iff_percent :
    let base := "http://localhost:8000/api/"
    let d : DeviceInterface := ⟨"http://localhost:8000/api"⟩
    let call := DeviceCall.runFile "100% Ø" "rose.gcode"
    new? base = .ok d ∧ Url.IsPlain base ∧ Url.EndsClean base ∧ IsSegment "100% Ø" ∧
      d.request? call = some ⟨.post, "/api/projects/100%%20%C3%98/run",
        some "\x7b\"file_name\":\"rose.gcode\"\x7d"⟩ ∧
      ∃ u v, Url.ofString? base = some u ∧ Url.ofString? (d.baseUrl ++ call.endpoint) = some v ∧
        u.Extends v ["projects", "100% Ø", "run"] := by
  intro base d call
  have hd : new? base = .ok d := by decide +kernel
  have hplain : Url.IsPlain base := by decide +kernel
  have hend : Url.EndsClean base := by decide +kernel
  have hname : IsSegment "100% Ø" := by decide +kernel
  obtain ⟨u, v, text, hu, hv, -, -, -, hiff⟩ :=
    runFile_extends_iff hd hplain hend "100% Ø" "rose.gcode"
  exact ⟨hd, hplain, hend, hname, by decide +kernel, u, v, hu, hv, hiff.2 hname⟩

/-- A name that leads up and asks something stops the plotter instead, and a blank behind the base
address becomes a part of its path. -/
theorem runFile_elsewhere :
    let d : DeviceInterface := ⟨"http://localhost:8000/api"⟩
    let d' : DeviceInterface := ⟨"http://localhost:8000/api "⟩
    new? "http://localhost:8000/api" = .ok d ∧
      (d.request? (.runFile "../plotter/stop?" "x.gcode")).map (·.target) =
        some "/api/plotter/stop?/run" ∧
      (∃ u v, Url.ofString? "http://localhost:8000/api" = some u ∧
        Url.ofString? (d.baseUrl ++ (DeviceCall.runFile "../plotter/stop?" "x.gcode").endpoint) =
          some v ∧ ¬ u.Extends v ["projects", "../plotter/stop?", "run"]) ∧
      new? "http://localhost:8000/api " = .ok d' ∧
      (d'.request? (.runFile "rose" "x.gcode")).map (·.target) =
        some "/api%20/projects/rose/run" := by
  refine ⟨by decide +kernel, by decide +kernel,
    ⟨⟨.http, .name "localhost", some 8000, ["api"], none⟩,
      ⟨.http, .name "localhost", some 8000, ["api", "plotter", "stop"], some "/run"⟩,
      by decide +kernel, by decide +kernel, ?_⟩, by decide +kernel, by decide +kernel⟩
  rintro ⟨hquery, -⟩
  exact absurd hquery (by decide +kernel)

end DeviceInterface

end PenPlotter
