import ColumnMap.Proofs.Url.Encoding
import ColumnMap.Url.Reader

/-!
Paths as lists of segments. A path that was read for the web has at least one segment, and none of
them hides a slash, so its text and its segments determine each other. What stands below such a path
is known exactly: words of letters and digits are added as they are, and any other text adds one
segment, or goes one segment up at most.
-/

namespace ColumnMap.Url

/-- Every one is a single segment. -/
def Singles (segments : List String) : Prop := ∀ s ∈ segments, Single s.toList

theorem singles_concat {segments : List String} {s : String} (h : Singles segments)
    (hs : Single s.toList) : Singles (segments ++ [s]) := by
  intro t ht
  rcases List.mem_append.mp ht with ht | ht
  · exact h t ht
  · rw [List.mem_singleton] at ht
    exact ht ▸ hs

theorem single_nil : Single "".toList := by
  intro c hc
  simp at hc

/-! ### Reading a path -/

theorem split_ne_nil (separates : Char → Bool) (s : List Char) : split separates s ≠ [] := by
  induction s with
  | nil => simp [split]
  | cons c s ih =>
    rw [split]
    split
    · simp
    · split <;> simp

/-- The parts between separators have none inside. -/
theorem separates_of_mem_split {separates : Char → Bool} {s p : List Char}
    (h : p ∈ split separates s) : ∀ c ∈ p, separates c = false := by
  induction s generalizing p with
  | nil =>
    rw [split, List.mem_singleton] at h
    simp [h]
  | cons c s ih =>
    rw [split] at h
    split at h
    case h_1 none => exact absurd none (split_ne_nil separates s)
    case h_2 q qs parts =>
      split at h
      case isTrue sep =>
        rcases List.mem_cons.mp h with rfl | h
        · simp
        · exact ih (parts ▸ h)
      case isFalse sep =>
        rcases List.mem_cons.mp h with rfl | h
        · intro d hd
          rcases List.mem_cons.mp hd with rfl | hd
          · simpa using sep
          · exact ih (parts ▸ List.mem_cons_self) d hd
        · exact ih (parts ▸ List.mem_cons_of_mem q h)

theorem single_encode_inPath {s : List Char} (h : '/' ∉ s) : Single (encode inPath s) := by
  intro c member
  rcases mem_encode member with ⟨inside, literal⟩ | percent
  · refine ⟨?_, ?_, ?_⟩
    · rintro rfl
      exact h inside
    · rintro rfl
      exact absurd literal (by decide)
    · rintro rfl
      exact absurd literal (by decide)
  · refine ⟨?_, ?_, ?_⟩ <;> (rintro rfl; exact absurd percent (by decide))

theorem singles_parent {segments : List String} (h : Singles segments) :
    Singles (parent segments) := by
  unfold parent
  split
  · simp [Singles]
  · split
    · exact h
    · exact fun s hs => h s (List.dropLast_subset segments hs)

/-- Outside files, a part of a path is a dot, two dots or a segment. -/
theorem descend_cases (isLast : Bool) (segments : List String) (segment : List Char) :
    dots? segment = some 1 ∧
      descend false isLast segments segment = segments ++ (if isLast then [""] else []) ∨
    dots? segment = some 2 ∧
      descend false isLast segments segment = parent segments ++ (if isLast then [""] else []) ∨
    dots? segment ≠ some 1 ∧ dots? segment ≠ some 2 ∧
      descend false isLast segments segment = segments ++ [String.ofList segment] := by
  by_cases one : dots? segment = some 1
  · exact .inl ⟨one, by simp [descend, one]⟩
  by_cases two : dots? segment = some 2
  · exact .inr (.inl ⟨two, by simp [descend, two]⟩)
  refine .inr (.inr ⟨one, two, ?_⟩)
  cases isLast <;> simp only [descend, Bool.false_and] <;> split <;> simp_all

theorem singles_descend {isLast : Bool} {segments : List String} {segment : List Char}
    (h : Singles segments) (hs : Single segment) :
    Singles (descend false isLast segments segment) := by
  have ended : ∀ {l : List String}, Singles l → Singles (l ++ if isLast then [""] else []) := by
    intro l hl
    cases isLast with
    | true => exact singles_concat hl single_nil
    | false => simpa using hl
  rcases descend_cases isLast segments segment with ⟨_, eq⟩ | ⟨_, eq⟩ | ⟨_, _, eq⟩
  · rw [eq]
    exact ended h
  · rw [eq]
    exact ended (singles_parent h)
  · rw [eq]
    exact singles_concat h (by simpa using hs)

theorem descend_last_ne_nil (segments : List String) (segment : List Char) :
    descend false true segments segment ≠ [] := by
  rcases descend_cases true segments segment with ⟨_, eq⟩ | ⟨_, eq⟩ | ⟨_, _, eq⟩ <;> simp [eq]

theorem singles_descendAll {segments : List String} {parts : List (List Char)}
    (h : Singles segments) (hp : ∀ p ∈ parts, Single p) :
    Singles (descendAll false segments parts) := by
  induction parts generalizing segments with
  | nil => exact h
  | cons p parts ih =>
    have first := hp p List.mem_cons_self
    cases parts with
    | nil => exact singles_descend h first
    | cons q parts =>
      exact ih (singles_descend h first) fun r hr => hp r (List.mem_cons_of_mem p hr)

theorem descendAll_ne_nil (segments : List String) {parts : List (List Char)} (h : parts ≠ []) :
    descendAll false segments parts ≠ [] := by
  induction parts generalizing segments with
  | nil => exact absurd rfl h
  | cons p parts ih =>
    cases parts with
    | nil => exact descend_last_ne_nil segments p
    | cons q parts => exact ih (descend false false segments p) (by simp)

theorem segmentsOf_ne_nil (special : Bool) (text : List Char) :
    segmentsOf special false text ≠ [] := by
  apply descendAll_ne_nil
  simpa using split_ne_nil _ text

theorem singles_segmentsOf (special : Bool) (text : List Char) :
    Singles (segmentsOf special false text) := by
  apply singles_descendAll
  · simp [Singles]
  · intro p hp
    obtain ⟨q, hq, rfl⟩ := List.mem_map.mp hp
    apply single_encode_inPath
    intro slash
    have := separates_of_mem_split hq '/' slash
    simp at this

/-! ### Reading an address for the web -/

/-- An address with a host and a path of the given segments, of which there is one at least. -/
structure Located (url : Url) (segments : List String) : Prop where
  path : url.path = .segments segments
  nonempty : segments ≠ []
  singles : Singles segments
  hosted : ∃ a, url.authority = some a

/-- The schemes under which a backend is asked. -/
def IsWeb (url : Url) : Prop := url.scheme = "http" ∨ url.scheme = "https"

theorem scheme_withAuthority {scheme : String} {s : List Char} {url : Url}
    (h : withAuthority scheme s = .ok url) : url.scheme = scheme := by
  simp only [withAuthority, bind, Except.bind] at h
  split at h
  · cases h
  · cases h
    rfl

theorem of_map_eq_ok {ε α β : Type} {x : Except ε α} {f : α → β} {b : β} (h : x.map f = .ok b) :
    ∃ a, x = .ok a ∧ f a = b := by
  cases x with
  | error e => cases h
  | ok a =>
    cases h
    exact ⟨a, rfl, rfl⟩

theorem scheme_fileOf {scheme : String} {s : List Char} {url : Url}
    (h : fileOf scheme s = .ok url) : url.scheme = scheme := by
  unfold fileOf at h
  split at h
  case h_1 a b r =>
    by_cases slashes : (isSlash a && isSlash b) = true
    · rw [if_pos slashes] at h
      by_cases drive : (driveLetter? (span (fun c => isSlash c || c == '?' || c == '#') r).1).isSome
      · simp only [if_pos drive] at h
        cases h
        rfl
      · simp only [if_neg drive] at h
        obtain ⟨host, _, rfl⟩ := of_map_eq_ok h
        rfl
    · rw [if_neg slashes] at h
      cases h
      rfl
  case h_2 =>
    cases h
    rfl

theorem scheme_otherOf {scheme : String} {s : List Char} {url : Url}
    (h : otherOf scheme s = .ok url) : url.scheme = scheme := by
  unfold otherOf at h
  split at h
  · exact scheme_withAuthority h
  · cases h
    rfl
  · cases h
    rfl

theorem located_withAuthority {scheme : String} {s : List Char} {url : Url}
    (special : isSpecial scheme = true) (h : withAuthority scheme s = .ok url) :
    ∃ segments, Located url segments := by
  simp only [withAuthority, bind, Except.bind] at h
  split at h
  · cases h
  · cases h
    refine ⟨_, rfl, ?_, ?_, _, rfl⟩
    · split
      · simp [special]
      · exact segmentsOf_ne_nil _ _
    · split
      · simpa [special, Singles] using single_nil
      · exact singles_segmentsOf _ _

theorem IsWeb.special {url : Url} (h : url.IsWeb) :
    isFile url.scheme = false ∧ isSpecial url.scheme = true := by
  rcases h with h | h <;> rw [h] <;> decide

/-- Every address that is read for the web has a host and a path of segments. -/
theorem located_ofText {text : String} {url : Url} (h : ofText text = .ok url) (web : url.IsWeb) :
    ∃ segments, Located url segments := by
  obtain ⟨file, special⟩ := web.special
  unfold ofText at h
  split at h
  · cases h
  · split at h
    case isTrue isFile =>
      rw [scheme_fileOf h, isFile] at file
      cases file
    case isFalse =>
      split at h
      case isTrue given => exact located_withAuthority given h
      case isFalse given =>
        rw [scheme_otherOf h] at special
        exact absurd special given

/-! ### The text of a path -/

/-- Every segment behind a slash. -/
def joined (segments : List String) : List Char := segments.flatMap fun s => '/' :: s.toList

theorem joined_append (l m : List String) : joined (l ++ m) = joined l ++ joined m :=
  List.flatMap_append

theorem joined_concat (l : List String) (s : String) :
    joined (l ++ [s]) = joined l ++ '/' :: s.toList := by
  simp [joined]

theorem toList_text_segments (l : List String) : (Path.segments l).text.toList = joined l := by
  rw [Path.text, String.toList_join, List.flatMap_map, joined]
  congr
  funext s
  rw [String.toList_append]
  rfl

theorem split_joined {l : List String} (h : Singles l) :
    split (· == '/') (joined l) = [] :: l.map String.toList := by
  induction l with
  | nil => rfl
  | cons s l ih =>
    have rest := ih fun t ht => h t (List.mem_cons_of_mem s ht)
    -- The characters of a segment go to the part in front of the next slash.
    have inside : ∀ (t : List Char), '/' ∉ t →
        split (· == '/') (t ++ joined l) = t :: l.map String.toList := by
      intro t ht
      induction t with
      | nil => exact rest
      | cons c t ihc =>
        have hc : (c == '/') = false := by
          rw [beq_eq_false_iff_ne]
          rintro rfl
          exact ht List.mem_cons_self
        rw [List.cons_append, split, ihc fun member => ht (List.mem_cons_of_mem c member)]
        simp [hc]
    have own := inside s.toList fun slash => (h s List.mem_cons_self '/' slash).1 rfl
    have step : joined (s :: l) = '/' :: (s.toList ++ joined l) := rfl
    rw [step, split, own]
    simp

/-- The text of a path determines its segments. -/
theorem joined_inj {l m : List String} (hl : Singles l) (hm : Singles m)
    (h : joined l = joined m) : l = m := by
  have same : l.map String.toList = m.map String.toList := by
    have parts := split_joined hl
    rw [h, split_joined hm] at parts
    injection parts with _ parts
    exact parts.symm
  exact (List.map_inj_right fun _ _ => String.toList_inj.mp).mp same

/-! ### In front of what is added -/

/-- A path of a single slash makes room for what is added. -/
def roomFor (segments : List String) : List String := if segments = [""] then [] else segments

/-- The segments in front of all that is added below a path. -/
def front (segments : List String) : List String := roomFor (popIfEmpty segments)

theorem singles_front {segments : List String} (h : Singles segments) : Singles (front segments) := by
  have popped : Singles (popIfEmpty segments) := by
    unfold popIfEmpty
    split
    · exact fun s hs => h s (List.dropLast_subset segments hs)
    · exact h
  unfold front roomFor
  split
  · simp [Singles]
  · exact popped

/-- A text without one slash at its end, and without the slash that is left if it was the only one. -/
def withoutSlash (text : List Char) : List Char :=
  let shorter := if text.getLast? = some '/' then text.dropLast else text
  if shorter = ['/'] then [] else shorter

theorem joined_eq_slash {segments : List String} (h : Singles segments) :
    joined segments = ['/'] ↔ segments = [""] := by
  have slash : joined [""] = ['/'] := rfl
  rw [← slash]
  refine ⟨joined_inj h ?_, congrArg joined⟩
  simpa [Singles] using single_nil

theorem joined_roomFor {segments : List String} (h : Singles segments) :
    joined (roomFor segments) = if joined segments = ['/'] then [] else joined segments := by
  unfold roomFor
  by_cases alone : segments = [""]
  · rw [if_pos alone, if_pos ((joined_eq_slash h).mpr alone)]
    rfl
  · rw [if_neg alone, if_neg (mt (joined_eq_slash h).mp alone)]

theorem getLast?_joined (l : List String) {s : String} (hs : Single s.toList) :
    (joined (l ++ [s])).getLast? = some '/' ↔ s = "" := by
  rw [joined_concat, ← String.toList_eq_nil_iff, List.getLast?_append_of_ne_nil _ (by simp)]
  rcases List.eq_nil_or_concat s.toList with none | ⟨init, c, whole⟩
  · simp [none]
  · have other : c ≠ '/' := (hs c (by simp [whole])).1
    rw [whole, List.concat_eq_append, ← List.cons_append, List.getLast?_concat]
    simp [other]

/-- What stands in front is the text of the path without a slash at its end. -/
theorem joined_front {segments : List String} (nonempty : segments ≠ []) (h : Singles segments) :
    joined (front segments) = withoutSlash (joined segments) := by
  obtain ⟨init, s, rfl⟩ := List.eq_nil_or_concat segments |>.resolve_left nonempty
  rw [List.concat_eq_append] at h ⊢
  have last : Single s.toList := h s (by simp)
  have before : Singles init := fun t ht => h t (List.mem_append_left _ ht)
  by_cases empty : s = ""
  · subst empty
    cases init with
    | nil => rfl
    | cons t init =>
      have shorter : popIfEmpty (t :: init ++ [""]) = t :: init := by
        rw [popIfEmpty, if_pos ⟨by simp, List.getLast?_concat⟩, List.dropLast_concat]
      have slash := (getLast?_joined (t :: init) last).mpr rfl
      rw [front, shorter, joined_roomFor before, withoutSlash, if_pos slash, joined_concat]
      simp
  · have stays : popIfEmpty (init ++ [s]) = init ++ [s] := by
      simp [popIfEmpty, empty]
    have slash : ¬ (joined (init ++ [s])).getLast? = some '/' :=
      mt (getLast?_joined init last).mp empty
    rw [front, stays, joined_roomFor h, withoutSlash, if_neg slash]

end ColumnMap.Url
