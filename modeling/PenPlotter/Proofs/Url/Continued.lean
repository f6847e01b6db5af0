import PenPlotter.Proofs.Url.Path

/-! # Addresses that are added to

A text added behind an address, without the slashes at its end, makes another address at the same
host.  Its path goes on from the path of the address (`ofString?_continued`), if the address has
neither query nor fragment and does not end in blanks that count once something stands behind
them. -/

namespace PenPlotter

open Text

namespace Url

variable {base : String} {u : Url}

/-- The blanks at the end of a text, if there are any, are tabs and line ends. -/
def EndsClean (s : String) : Prop := ∀ c ∈ s.toList.rtakeWhile isEdge, isKept c = false

/-- An address without query and fragment. -/
def IsPlain (s : String) : Prop := ∀ c ∈ s.toList, c ≠ '?' ∧ c ≠ '#'

instance (s : String) : Decidable (EndsClean s) :=
  List.decidableBAll (isKept · = false) (s.toList.rtakeWhile isEdge)

instance (s : String) : Decidable (IsPlain s) :=
  List.decidableBAll (fun c => c ≠ '?' ∧ c ≠ '#') s.toList

/-! ### Characters that count -/

theorem rtakeWhile_append_of_pos {p : Char → Bool} (xs : List Char) {ys : List Char}
    (hy : ∀ c ∈ ys, p c = true) : (xs ++ ys).rtakeWhile p = xs.rtakeWhile p ++ ys := by
  rw [List.rtakeWhile, List.reverse_append,
    List.takeWhile_append_of_pos fun c hc => hy c (List.mem_reverse.1 hc), List.reverse_append,
    List.reverse_reverse]
  rfl

/-- Of an address that ends clean, only blanks at its beginning are dropped, and what is dropped
everywhere. -/
theorem significant_of_endsClean (h : EndsClean base) :
    significant base = (base.toList.dropWhile isEdge).filter isKept := by
  have hend : ∀ c ∈ (base.toList.dropWhile isEdge).rtakeWhile isEdge, isKept c = false := by
    intro c hc
    apply h
    rw [← List.takeWhile_append_dropWhile (p := isEdge) (l := base.toList),
      ← List.rdropWhile_append_rtakeWhile (p := isEdge) (l := base.toList.dropWhile isEdge),
      ← List.append_assoc, rtakeWhile_append_of_pos _ fun _ => List.mem_rtakeWhile_imp]
    exact List.mem_append_right _ hc
  have hnone : ((base.toList.dropWhile isEdge).rtakeWhile isEdge).filter isKept = [] :=
    List.filter_eq_nil_iff.2 fun c hc => by simp [hend c hc]
  rw [← String.ofList_toList (s := base), significant_eq, String.toList_ofList]
  conv_rhs => rw [← List.rdropWhile_append_rtakeWhile (p := isEdge)
    (l := base.toList.dropWhile isEdge)]
  rw [List.filter_append, hnone, List.append_nil]

theorem significant_append_of_getLast? {xs ys : List Char} (hx : xs.dropWhile isEdge ≠ [])
    (hy : ∃ c ∈ ys.getLast?, isEdge c = false) :
    significant (String.ofList (xs ++ ys)) =
      (xs.dropWhile isEdge).filter isKept ++ ys.filter isKept := by
  obtain ⟨c, hc, hedge⟩ := hy
  obtain ⟨front, rfl⟩ := List.getLast?_eq_some_iff.1 hc
  rw [significant_eq, List.dropWhile_append, if_neg (by simpa using hx), ← List.append_assoc,
    List.rdropWhile_concat_neg _ _ _ (by simp [hedge]), List.append_assoc, List.filter_append]

/-! ### Behind the scheme -/

/-- What is made of the parts of an address. -/
def ofParts? (scheme : Scheme) (authority after : List Char) : Option Url := do
  let (hostText, portText) := splitPort false (afterUser authority)
  let host ← Host.ofChars? hostText
  let port ← portOf? (portText.getD [])
  let after := after.takeWhile (· != '#')
  let query := match after.dropWhile (· != '?') with
    | _ :: q => some (Percent.encode Percent.escapesInQuery (String.ofList q))
    | [] => none
  some ⟨scheme, host, port, segmentsOf (after.takeWhile (· != '?')), query⟩

theorem ofRest?_eq (scheme : Scheme) (rest : List Char) :
    ofRest? scheme rest = ofParts? scheme ((rest.dropWhile isSlash).takeWhile (!endsAuthority ·))
      ((rest.dropWhile isSlash).dropWhile (!endsAuthority ·)) := rfl

theorem ofRest?_append {scheme : Scheme} {rest ys : List Char} (hrest : rest.dropWhile isSlash ≠ [])
    (hy : ∀ c ∈ ys.head?, endsAuthority c = true) :
    ofRest? scheme (rest ++ ys) =
      ofParts? scheme ((rest.dropWhile isSlash).takeWhile (!endsAuthority ·))
        ((rest.dropWhile isSlash).dropWhile (!endsAuthority ·) ++ ys) := by
  have hstop : ∀ c ∈ ys.head?, (!endsAuthority c) = false := fun c hc => by rw [hy c hc]; rfl
  rw [ofRest?_eq, List.dropWhile_append, if_neg (by simpa using hrest),
    takeWhile_append_of_stop hstop, dropWhile_append_of_stop hstop]

/-- What is added to a path, up to a query or a fragment. -/
def addedPath (cs : List Char) : List Char := (cs.takeWhile (· != '#')).takeWhile (· != '?')

def addedQuery (cs : List Char) : Option String :=
  match (cs.takeWhile (· != '#')).dropWhile (· != '?') with
  | _ :: q => some (Percent.encode Percent.escapesInQuery (String.ofList q))
  | [] => none

section added

variable {path : List Char} (hpath : ∀ c ∈ path, c ≠ '?' ∧ c ≠ '#')

include hpath

theorem takeWhile_fragment_append (ys : List Char) :
    (path ++ ys).takeWhile (· != '#') = path ++ ys.takeWhile (· != '#') :=
  List.takeWhile_append_of_pos fun c hc => bne_iff_ne.2 (hpath c hc).2

theorem addedPath_append (ys : List Char) : addedPath (path ++ ys) = path ++ addedPath ys := by
  rw [addedPath, takeWhile_fragment_append hpath,
    List.takeWhile_append_of_pos fun c hc => bne_iff_ne.2 (hpath c hc).1]
  rfl

theorem addedQuery_append (ys : List Char) : addedQuery (path ++ ys) = addedQuery ys := by
  rw [addedQuery, takeWhile_fragment_append hpath,
    List.dropWhile_append_of_pos fun c hc => bne_iff_ne.2 (hpath c hc).1]
  rfl

theorem ofParts?_append {scheme : Scheme} {authority : List Char} (ys : List Char) :
    ofParts? scheme authority (path ++ ys) =
      (ofParts? scheme authority []).map fun u =>
        { u with path := segmentsOf (path ++ addedPath ys), query := addedQuery ys } := by
  rw [← addedPath_append hpath, ← addedQuery_append hpath]
  simp only [ofParts?, addedPath, addedQuery]
  cases Host.ofChars? (splitPort false (afterUser authority)).1 with
  | none => rfl
  | some host => cases portOf? ((splitPort false (afterUser authority)).2.getD []) <;> rfl

end added

/-! ### Whole addresses -/

/-- A text without the slashes at its end. -/
def trimmed (s : String) : List Char := s.toList.rdropWhile (· == '/')

theorem exists_slashes (s : String) : ∃ n, s.toList = trimmed s ++ List.replicate n '/' := by
  refine ⟨(s.toList.rtakeWhile (· == '/')).length, ?_⟩
  have hslashes : s.toList.rtakeWhile (· == '/') =
      List.replicate (s.toList.rtakeWhile (· == '/')).length '/' :=
    List.eq_replicate_of_mem fun c hc => by simpa using List.mem_rtakeWhile_imp hc
  rw [trimmed, ← hslashes, List.rdropWhile_append_rtakeWhile]

theorem exists_of_ofString? (h : ofString? base = some u) : ∃ name rest scheme,
    significant base = name ++ ':' :: rest ∧ ':' ∉ name ∧ Scheme.ofName? name = some scheme ∧
      ofRest? scheme rest = some u := by
  simp only [ofString?] at h
  split at h
  case h_2 => cases h
  rename_i c rest hrest
  obtain ⟨scheme, hscheme, h⟩ := Option.bind_eq_some_iff.1 h
  have hc := head?_dropWhile_stops (· != ':') (significant base) c (by rw [hrest]; rfl)
  obtain rfl : c = ':' := by simpa using hc
  refine ⟨_, rest, scheme, ?_, ?_, hscheme, h⟩
  · rw [← hrest, List.takeWhile_append_dropWhile]
  · intro hmem
    exact absurd (List.mem_takeWhile_imp hmem) (by decide)

theorem addedPath_slashes (n : ℕ) :
    addedPath (List.replicate n '/') = List.replicate n '/' := by
  simp [addedPath]

theorem addedQuery_slashes (n : ℕ) : addedQuery (List.replicate n '/') = none := by
  simp [addedQuery]

theorem ofRest?_slashes {rest : List Char} (h : rest.dropWhile isSlash = []) (scheme : Scheme) :
    ofRest? scheme rest = none := by
  rw [ofRest?_eq, h]
  simp [ofParts?, afterUser, splitPort, StreamAddress.host_empty]

theorem exists_rest {xs name rest : List Char} {n : ℕ}
    (h : xs ++ List.replicate n '/' = name ++ ':' :: rest) :
    ∃ front, xs = name ++ ':' :: front ∧ rest = front ++ List.replicate n '/' := by
  have hslashes : ':' ∉ List.replicate n '/' := by simp
  rcases List.append_eq_append_iff.1 h with ⟨ys, -, hys⟩ | ⟨ys, hxs, hys⟩
  · rw [hys] at hslashes
    exact absurd (by simp) hslashes
  cases ys with
  | nil =>
    rw [List.nil_append] at hys
    rw [← hys] at hslashes
    exact absurd List.mem_cons_self hslashes
  | cons c front =>
    obtain ⟨rfl, hrest⟩ := List.cons.inj hys
    exact ⟨front, hxs, hrest⟩

/-- What stands behind the scheme stays there when something is added. -/
theorem exists_front (hu : ofString? base = some u) (hend : EndsClean base) :
    ∃ name scheme front n, ':' ∉ name ∧ Scheme.ofName? name = some scheme ∧
      ofRest? scheme (front ++ List.replicate n '/') = some u ∧ front ⊆ base.toList ∧
      ∀ cs : List Char, (∃ c ∈ cs.getLast?, isEdge c = false) →
        significant (String.ofList (trimmed base ++ '/' :: cs)) =
          name ++ ':' :: (front ++ '/' :: cs.filter isKept) := by
  obtain ⟨n, hn⟩ := exists_slashes base
  obtain ⟨name, rest, scheme, hsignificant, hname, hscheme, hread⟩ := exists_of_ofString? hu
  rw [significant_of_endsClean hend] at hsignificant
  have hcolon : ':' ∈ base.toList := by
    have hmem : ':' ∈ (base.toList.dropWhile isEdge).filter isKept := by simp [hsignificant]
    exact (List.dropWhile_sublist _).mem (List.mem_filter.1 hmem).1
  -- the colon is not among the slashes, so something stays when they are trimmed
  have htrimmed : (trimmed base).dropWhile isEdge ≠ [] := by
    intro hnil
    rw [hn] at hcolon
    rcases List.mem_append.1 hcolon with hmem | hmem
    · exact absurd (List.dropWhile_eq_nil_iff.1 hnil _ hmem) (by decide)
    · exact absurd (List.eq_of_mem_replicate hmem) (by decide)
  rw [hn, List.dropWhile_append, if_neg (by simpa using htrimmed), List.filter_append,
    List.filter_replicate_of_pos rfl] at hsignificant
  obtain ⟨front, hfront, rfl⟩ := exists_rest hsignificant
  refine ⟨name, scheme, front, n, hname, hscheme, hread, ?_, fun cs hcs => ?_⟩
  · intro c hc
    have hmem : c ∈ ((trimmed base).dropWhile isEdge).filter isKept := by simp [hfront, hc]
    rw [hn]
    exact List.mem_append_left _ ((List.dropWhile_sublist _).mem (List.mem_filter.1 hmem).1)
  · obtain ⟨c, hc, hedge⟩ := hcs
    obtain ⟨before, rfl⟩ := List.getLast?_eq_some_iff.1 hc
    have hlast : ('/' :: (before ++ [c])).getLast? = some c :=
      List.getLast?_concat (l := '/' :: before)
    rw [significant_append_of_getLast? htrimmed ⟨c, hlast, hedge⟩, hfront,
      List.filter_cons_of_pos rfl]
    simp only [List.append_assoc, List.cons_append]

/-- **A continued address.**  What is added behind an address, without the slashes at its end, goes
on from its path and leaves everything in front as it is. -/
theorem ofString?_continued (hu : ofString? base = some u) (hplain : IsPlain base)
    (hend : EndsClean base) : u.query = none ∧ ∃ entered m,
      u.path = entered.reverse ++ List.replicate m "" ∧
      ∀ cs : List Char, (∃ c ∈ cs.getLast?, isEdge c = false) →
        ofString? (String.ofList (trimmed base ++ '/' :: cs)) = some { u with
          path := resolve entered (pieces (addedPath (cs.filter isKept)))
          query := addedQuery (cs.filter isKept) } := by
  obtain ⟨name, scheme, front, n, hname, hscheme, hread, hsub, hsignificant⟩ :=
    exists_front hu hend
  have hslashes : front.dropWhile isSlash ≠ [] := by
    intro hnil
    have hnone : (List.replicate n '/').dropWhile isSlash = [] :=
      List.dropWhile_eq_nil_iff.2 fun c hc => by rw [List.eq_of_mem_replicate hc]; rfl
    rw [ofRest?_slashes (by rw [List.dropWhile_append, hnil, hnone]; rfl)] at hread
    cases hread
  generalize hafter : (front.dropWhile isSlash).dropWhile (!endsAuthority ·) = path at *
  have hpath : ∀ c ∈ path, c ≠ '?' ∧ c ≠ '#' := by
    intro c hc
    rw [← hafter] at hc
    exact hplain c (hsub ((List.dropWhile_sublist _).mem ((List.dropWhile_sublist _).mem hc)))
  have hslash : ∀ c ∈ path.head?, isSlash c = true := by
    intro c hc
    obtain ⟨hquery, hfragment⟩ := hpath c (List.mem_of_head? hc)
    rw [← hafter] at hc
    simpa [endsAuthority, hquery, hfragment] using head?_dropWhile_stops _ _ c hc
  have hstop : ∀ c ∈ (List.replicate n '/').head?, endsAuthority c = true := by
    intro c hc
    rw [List.eq_of_mem_replicate (List.mem_of_head? hc)]
    rfl
  rw [ofRest?_append hslashes hstop, hafter, ofParts?_append hpath, addedPath_slashes,
    addedQuery_slashes] at hread
  obtain ⟨u', hparts, rfl⟩ := Option.map_eq_some_iff.1 hread
  obtain ⟨entered, m, hbase, hadded⟩ := segmentsOf_append hslash n
  refine ⟨rfl, entered, m, hbase, fun cs hcs => ?_⟩
  have hstop' : ∀ c ∈ ('/' :: cs.filter isKept).head?, endsAuthority c = true := by
    rintro _ ⟨⟩
    rfl
  rw [ofString?_of_significant hname (hsignificant cs hcs), hscheme, Option.bind_some,
    ofRest?_append hslashes hstop', hafter, ofParts?_append hpath, hparts, Option.map_some,
    ← hadded]
  rfl

end Url

end PenPlotter
