import MqAssembler.OutputPath
import Mathlib.Data.List.Basic

/-!
# The default output

Without an explicit output an executable is written next to its listing, under a name that ends in
`.mqa`. It is never written over the listing, unless the listing has such a name itself. The first
rule has an exception: for a name of two dots and an extension the output is the parent directory.

## Implementation notes

`Renamed` says by cases what becomes of a name, and `exists_renamed` that the directory in front of
it does not matter. All else is a case analysis. A path is cut at its last separator and a name at
its last dot; both cuts are the same search from the end, so `takeWhile_reverse_append` and
`dropWhile_reverse_append` serve both.
-/

namespace MqAssembler.OutputPath

/-- A directory in front of a name: nothing, or a text that ends in a separator. -/
def IsDirectoryPart (dir : List Char) : Prop :=
  dir = [] ∨ dir.getLast? = some '/'

/-- A name in a directory. The names `.` and `..` stand for directories. -/
structure IsFileName (name : List Char) : Prop where
  ne_nil : name ≠ []
  no_separator : '/' ∉ name
  ne_here : name ≠ ['.']
  ne_parent : name ≠ ['.', '.']

/-- Two dots and an extension. -/
def IsTwoDotted (name : List Char) : Prop :=
  ∃ ext, name = '.' :: '.' :: ext ∧ '.' ∉ ext

variable {dir name out stem ext : List Char}

/-! ## Cuts at a mark -/

section Cut

variable {mark : Char} {front back : List Char}

/-- The text behind the last mark is found from the end. -/
theorem takeWhile_reverse_append (hfront : front = [] ∨ front.getLast? = some mark)
    (hback : mark ∉ back) : (front ++ back).reverse.takeWhile (· != mark) = back.reverse := by
  have hpass : ∀ c ∈ back.reverse, (c != mark) = true := by
    intro c hc
    rw [bne_iff_ne]
    rintro rfl
    exact hback (List.mem_reverse.1 hc)
  rw [List.reverse_append, List.takeWhile_append_of_pos hpass]
  rcases hfront with rfl | hlast
  · rw [List.reverse_nil, List.takeWhile_nil, List.append_nil]
  · obtain ⟨before, rfl⟩ := List.getLast?_eq_some_iff.1 hlast
    simp

/-- The text up to the last mark is what the search leaves. -/
theorem dropWhile_reverse_append (hfront : front = [] ∨ front.getLast? = some mark)
    (hback : mark ∉ back) : (front ++ back).reverse.dropWhile (· != mark) = front.reverse := by
  have hsplit := List.takeWhile_append_dropWhile (p := (· != mark)) (l := (front ++ back).reverse)
  rw [takeWhile_reverse_append hfront hback, List.reverse_append] at hsplit
  rw [List.reverse_append]
  exact List.append_cancel_left hsplit

end Cut

/-! ## The last name of a path -/

/-- A name other than `.` ends its path as it stands. -/
theorem skipTrailing_reverse_append (hne : name ≠ []) (hsep : '/' ∉ name) (hhere : name ≠ ['.']) :
    skipTrailing (dir ++ name).reverse = (dir ++ name).reverse := by
  obtain ⟨backwards, rfl⟩ : ∃ backwards, name = backwards.reverse :=
    ⟨name.reverse, name.reverse_reverse.symm⟩
  rw [List.reverse_append, List.reverse_reverse]
  rw [List.mem_reverse] at hsep
  rcases backwards with _ | ⟨c, _ | ⟨d, backwards⟩⟩
  · exact absurd rfl hne
  · have hc : c ≠ '.' := fun h => hhere (by rw [h]; rfl)
    rw [skipTrailing.eq_def]
    split <;> simp_all
  · rw [skipTrailing.eq_def]
    split <;> simp_all

theorem lastName?_append (hdir : IsDirectoryPart dir) (hname : IsFileName name) :
    lastName? (dir ++ name) = some (dir, name) := by
  rw [lastName?, skipTrailing_reverse_append hname.ne_nil hname.no_separator hname.ne_here,
    takeWhile_reverse_append hdir hname.no_separator,
    dropWhile_reverse_append hdir hname.no_separator]
  simp [hname.ne_nil, hname.ne_parent]

theorem lastName?_parent (hdir : IsDirectoryPart dir) : lastName? (dir ++ ['.', '.']) = none := by
  rw [lastName?, skipTrailing_reverse_append (by decide) (by decide) (by decide),
    takeWhile_reverse_append hdir (by decide)]
  simp

/-! ## The extension of a name -/

/-- The last dot divides a name if something stands in front of it. -/
theorem splitName_divided (hstem : stem ≠ []) (hext : '.' ∉ ext) :
    splitName (stem ++ '.' :: ext) = (stem, some ext) := by
  have hlast : (stem ++ ['.']).getLast? = some '.' := by simp
  have hcut : stem ++ '.' :: ext = (stem ++ ['.']) ++ ext := by simp
  rw [splitName, hcut, takeWhile_reverse_append (.inr hlast) hext,
    dropWhile_reverse_append (.inr hlast) hext, List.reverse_append]
  obtain ⟨before, c, rfl⟩ := List.eq_nil_or_concat' stem |>.resolve_left hstem
  simp

/-- A dot in first place divides nothing. -/
theorem splitName_undivided (hname : '.' ∉ name.tail) : splitName name = (name, none) := by
  cases name with
  | nil => rfl
  | cons c rest =>
      rw [List.tail_cons] at hname
      by_cases hc : c = '.'
      · subst hc
        have hdrop : ('.' :: rest).reverse.dropWhile (· != '.') = ['.'] :=
          dropWhile_reverse_append (.inr (rfl : ['.'].getLast? = some '.')) hname
        rw [splitName, hdrop]
      · have hnone : '.' ∉ c :: rest := List.not_mem_cons_of_ne_of_not_mem (Ne.symm hc) hname
        have hdrop : (c :: rest).reverse.dropWhile (· != '.') = [] :=
          dropWhile_reverse_append (.inl rfl) hnone
        rw [splitName, hdrop]

theorem exists_divided (h : '.' ∈ name.tail) :
    ∃ stem ext, name = stem ++ '.' :: ext ∧ stem ≠ [] ∧ '.' ∉ ext := by
  cases name with
  | nil => exact absurd h List.not_mem_nil
  | cons c rest =>
      -- the last dot is the first one from the end
      obtain ⟨behind, before, hrest, hbehind⟩ :=
        List.eq_append_cons_of_mem (List.mem_reverse.2 h)
      rw [List.tail_cons, List.reverse_eq_iff] at hrest
      refine ⟨c :: before.reverse, behind.reverse, ?_, List.cons_ne_nil _ _, ?_⟩
      · rw [hrest]
        simp
      · rwa [List.mem_reverse]

/-! ## What becomes of a name -/

/-- The ending of listings is replaced as a whole. Any other name has its extension replaced, or
the new one added if it has none. Two dots are left when the extension behind them is dropped; they
name no file, so nothing is added to them. -/
inductive Renamed : List Char → List Char → Prop
  | listing {stem : List Char} : Renamed (stem ++ listing) (stem ++ executable)
  | added {name : List Char} (hlisting : ¬ listing <:+ name) (hname : '.' ∉ name.tail) :
      Renamed name (name ++ executable)
  | replaced {stem ext : List Char} (hlisting : ¬ listing <:+ stem ++ '.' :: ext) (hne : stem ≠ [])
      (hdot : stem ≠ ['.']) (hext : '.' ∉ ext) : Renamed (stem ++ '.' :: ext) (stem ++ executable)
  | parent {ext : List Char} (hext : '.' ∉ ext) : Renamed ('.' :: '.' :: ext) ['.', '.']

/-- The ending of listings does not reach into the directory. -/
theorem listing_suffix_append_iff (hdir : IsDirectoryPart dir) :
    listing <:+ dir ++ name ↔ listing <:+ name := by
  constructor
  · intro h
    rcases List.suffix_or_suffix_of_suffix h (List.suffix_append dir name) with h' | ⟨part, hpart⟩
    · exact h'
    obtain ⟨front, hfront⟩ := h
    rw [← hpart, ← List.append_assoc] at hfront
    have hdir_eq := List.append_cancel_right hfront
    have hpart_nil : part = [] := by
      rcases hdir with rfl | hlast
      · exact (List.append_eq_nil_iff.1 hdir_eq).2
      · by_contra hne
        -- a separator would stand within the ending
        have hmem : '/' ∈ part := by
          rw [← hdir_eq, List.getLast?_append_of_ne_nil _ hne] at hlast
          exact List.mem_of_getLast? hlast
        exact absurd (hpart ▸ List.mem_append_left name hmem : '/' ∈ listing) (by decide)
    rw [hpart_nil, List.nil_append] at hpart
    exact hpart ▸ List.suffix_refl _
  · exact fun h => List.suffix_append_of_suffix h

theorem setExtension_append (hdir : IsDirectoryPart dir) (hname : IsFileName name) :
    setExtension (dir ++ name) = dir ++ ((splitName name).1 ++ executable) := by
  simp only [setExtension, lastName?_append hdir hname, List.append_assoc]

theorem setExtension_parent (hdir : IsDirectoryPart dir) :
    setExtension (dir ++ ['.', '.']) = dir ++ ['.', '.'] := by
  rw [setExtension, lastName?_parent hdir]

theorem dropExtension_undivided (hdir : IsDirectoryPart dir) (hname : IsFileName name)
    (hdot : '.' ∉ name.tail) : dropExtension (dir ++ name) = dir ++ name := by
  simp only [dropExtension, lastName?_append hdir hname, splitName_undivided hdot,
    Option.getD_none, List.length_nil, Nat.sub_zero, List.take_length]

/-- Dropping an extension leaves its dot. -/
theorem dropExtension_divided (hdir : IsDirectoryPart dir) (hname : IsFileName (stem ++ '.' :: ext))
    (hstem : stem ≠ []) (hext : '.' ∉ ext) :
    dropExtension (dir ++ (stem ++ '.' :: ext)) = dir ++ (stem ++ ['.']) := by
  have hcut : dir ++ (stem ++ '.' :: ext) = dir ++ (stem ++ ['.']) ++ ext := by simp
  simp only [dropExtension, lastName?_append hdir hname, splitName_divided hstem hext,
    Option.getD_some]
  rw [hcut, List.length_append, Nat.add_sub_cancel, List.take_left]

/-- A stem with its dot is a name again, unless the stem is a dot. -/
theorem IsFileName.stem_dot (hname : IsFileName (stem ++ '.' :: ext)) (hne : stem ≠ [])
    (hdot : stem ≠ ['.']) : IsFileName (stem ++ ['.']) where
  ne_nil := List.concat_ne_nil '.' stem
  no_separator := by
    have hfront : stem ++ ['.'] <+: stem ++ '.' :: ext := ⟨ext, by simp⟩
    exact fun hmem => hname.no_separator (hfront.subset hmem)
  ne_here := fun h => hne (List.append_cancel_right (h.trans (List.nil_append ['.']).symm))
  ne_parent := fun h => hdot (List.append_cancel_right (h.trans List.singleton_append.symm))

theorem exists_renamed (hdir : IsDirectoryPart dir) (hname : IsFileName name) :
    ∃ out, Renamed name out ∧ ofChars (dir ++ name) = dir ++ out := by
  have hofChars := ofChars.eq_def (dir ++ name)
  simp only [List.isSuffixOf_iff_suffix, listing_suffix_append_iff hdir] at hofChars
  by_cases hlisting : listing <:+ name
  · obtain ⟨stem, rfl⟩ := hlisting
    refine ⟨stem ++ executable, .listing, ?_⟩
    rw [hofChars, if_pos (List.suffix_append stem listing), ← List.append_assoc,
      List.length_append, Nat.add_sub_cancel, List.take_left, List.append_assoc]
  rw [if_neg hlisting] at hofChars
  by_cases hdot : '.' ∈ name.tail
  · obtain ⟨stem, ext, rfl, hne, hext⟩ := exists_divided hdot
    rw [dropExtension_divided hdir hname hne hext] at hofChars
    by_cases hstem : stem = ['.']
    · subst hstem
      exact ⟨['.', '.'], .parent hext, hofChars.trans (setExtension_parent hdir)⟩
    · refine ⟨stem ++ executable, .replaced hlisting hne hstem hext, ?_⟩
      -- the dot that is left ends the same stem
      rw [hofChars, setExtension_append hdir (hname.stem_dot hne hstem),
        splitName_divided hne List.not_mem_nil]
  · refine ⟨name ++ executable, .added hlisting hdot, ?_⟩
    rw [hofChars, dropExtension_undivided hdir hname hdot, setExtension_append hdir hname,
      splitName_undivided hdot]

/-! ## Endings of the new name -/

theorem Renamed.no_separator (h : Renamed name out) (hsep : '/' ∉ name) : '/' ∉ out := by
  have hnew : '/' ∉ executable := by decide
  cases h with
  | listing => exact List.not_mem_append (fun hmem => hsep (List.mem_append_left _ hmem)) hnew
  | added => exact List.not_mem_append hsep hnew
  | replaced => exact List.not_mem_append (fun hmem => hsep (List.mem_append_left _ hmem)) hnew
  | parent => decide

/-- A dot behind more than one character is no second dot. -/
theorem dot_mem_of_divided_eq {rest : List Char} (hne : stem ≠ []) (hdot : stem ≠ ['.'])
    (h : stem ++ '.' :: ext = '.' :: '.' :: rest) : '.' ∈ rest := by
  rcases stem with _ | ⟨c, _ | ⟨d, stem⟩⟩
  · exact absurd rfl hne
  · obtain ⟨rfl, -⟩ := List.cons.inj h
    exact absurd rfl hdot
  · simp only [List.cons_append, List.cons.injEq] at h
    rw [← h.2.2]
    exact List.mem_append_right stem List.mem_cons_self

/-- The new name is that of an executable, or the parent directory for two dots and an
extension. -/
theorem Renamed.ending (h : Renamed name out) :
    executable <:+ out ∧ ¬ IsTwoDotted name ∨ out = ['.', '.'] ∧ IsTwoDotted name := by
  cases h with
  | @listing stem =>
      refine .inl ⟨List.suffix_append _ _, ?_⟩
      rintro ⟨ext, hname, hext⟩
      have hcut : stem ++ OutputPath.listing = (stem ++ ".mql".toList) ++ '.' :: "yaml".toList :=
        (List.append_assoc stem ".mql".toList ".yaml".toList).symm
      have hletter : 'm' ∈ stem ++ ".mql".toList := List.mem_append_right stem (by decide)
      refine hext (dot_mem_of_divided_eq ?_ ?_ (hcut.symm.trans hname))
      · exact List.ne_nil_of_mem hletter
      · intro hdot
        exact absurd (hdot ▸ hletter) (by decide)
  | added _ hdot =>
      refine .inl ⟨List.suffix_append _ _, ?_⟩
      rintro ⟨ext, rfl, -⟩
      exact hdot List.mem_cons_self
  | replaced _ hne hstem _ =>
      refine .inl ⟨List.suffix_append _ _, ?_⟩
      rintro ⟨ext, hname, hext⟩
      exact hext (dot_mem_of_divided_eq hne hstem hname)
  | @parent ext hext => exact .inr ⟨rfl, ext, rfl, hext⟩

/-- A name that is kept is that of an executable with more than a dot in front of its extension. -/
theorem Renamed.executable_of_eq (h : Renamed name out) (hname : IsFileName name)
    (heq : out = name) :
    executable <:+ name ∧ name ≠ executable ∧ name ≠ '.' :: executable := by
  cases h with
  | listing => exact absurd (List.append_cancel_left heq) (by decide)
  | added =>
      rw [List.append_right_eq_self] at heq
      exact absurd heq (by decide)
  | @replaced stem ext _ hne hstem _ =>
      rw [← heq]
      refine ⟨List.suffix_append _ _, ?_, ?_⟩
      · rwa [ne_eq, List.append_left_eq_self]
      · intro hdot
        exact hstem (List.append_cancel_right (hdot.trans List.singleton_append.symm))
  | parent => exact absurd heq.symm hname.ne_parent

/-- A name of an executable is kept if more than a dot stands in front of its extension. -/
theorem Renamed.eq_of_executable (h : Renamed name out) (hname : name = stem ++ executable)
    (hne : stem ≠ []) (hdot : stem ≠ ['.']) : out = name := by
  cases h with
  | @listing front =>
      have hsuffix : executable <:+ OutputPath.listing :=
        List.suffix_of_suffix_length_le ⟨stem, hname.symm⟩ (List.suffix_append _ _) (by decide)
      exact absurd hsuffix (by decide)
  | added _ hnone =>
      obtain ⟨c, stem, rfl⟩ := List.exists_cons_of_ne_nil hne
      rw [hname] at hnone
      exact absurd (List.mem_append_right stem List.mem_cons_self) hnone
  | @replaced front ext _ hfront _ hext =>
      -- a name has one last dot, so the extension that is replaced is the new one
      have hsplit : (stem, some "mqa".toList) = (front, some ext) := by
        rw [← splitName_divided hne (by decide), ← splitName_divided hfront hext, hname]
        rfl
      rw [hname, (Prod.mk.inj hsplit).1]
  | parent hext => exact absurd (dot_mem_of_divided_eq hne hdot hname.symm) hext

/-! ## Output paths -/

theorem exists_ofInput_eq {dir name : String} (hdir : IsDirectoryPart dir.toList)
    (hname : IsFileName name.toList) :
    ∃ out : String, Renamed name.toList out.toList ∧ ofInput (dir ++ name) = dir ++ out := by
  obtain ⟨out, hrenamed, hout⟩ := exists_renamed hdir hname
  refine ⟨String.ofList out, by rwa [String.toList_ofList], ?_⟩
  rw [ofInput, String.toList_append, hout, String.ofList_append, String.ofList_toList]

/-- The default output for a file lies in the directory of the file and is named as an executable.
The only exceptions are names of two dots and an extension, whose output is the parent directory. -/
theorem default_output_is_executable_next_to_input (dir name : String)
    (hdir : IsDirectoryPart dir.toList) (hname : IsFileName name.toList) :
    (¬ IsTwoDotted name.toList →
      ∃ out : String, ofInput (dir ++ name) = dir ++ out ∧ '/' ∉ out.toList ∧
        ".mqa".toList <:+ out.toList) ∧
    (IsTwoDotted name.toList → ofInput (dir ++ name) = dir ++ "..") := by
  obtain ⟨out, hrenamed, hout⟩ := exists_ofInput_eq hdir hname
  rcases hrenamed.ending with ⟨hsuffix, hnot⟩ | ⟨hparent, htwo⟩
  · refine ⟨fun _ => ⟨out, hout, ?_, hsuffix⟩, fun htwo => absurd htwo hnot⟩
    exact hrenamed.no_separator hname.no_separator
  · refine ⟨fun hnot => absurd htwo hnot, fun _ => ?_⟩
    have hdots : out = ".." := String.toList_injective hparent
    rw [hout, hdots]

/-- Dots in the directory and in every place of the name. -/
theorem default_output_is_executable_next_to_input_many_dots :
    ∃ out : String, ofInput ("../a.d/" ++ "..b..c") = "../a.d/" ++ out ∧ '/' ∉ out.toList ∧
      ".mqa".toList <:+ out.toList := by
  have hmany : ¬ IsTwoDotted "..b..c".toList := by
    rintro ⟨ext, hext, hdot⟩
    obtain rfl : ext = "b..c".toList := (List.cons.inj (List.cons.inj hext).2).2.symm
    exact hdot (by decide)
  exact (default_output_is_executable_next_to_input "../a.d/" "..b..c" (.inr (by decide))
    ⟨by decide, by decide, by decide, by decide⟩).1 hmany

/-- A name of two dots and an extension has no executable for an output. -/
theorem two_dots_and_extension_give_parent_directory :
    IsDirectoryPart "".toList ∧ IsFileName "..a".toList ∧ ofInput ("" ++ "..a") = ".." ∧
      ¬ ∃ out : String, ofInput ("" ++ "..a") = "" ++ out ∧ '/' ∉ out.toList ∧
        ".mqa".toList <:+ out.toList := by
  have hparent : ofInput ("" ++ "..a") = ".." := by decide
  refine ⟨.inl rfl, ⟨by decide, by decide, by decide, by decide⟩, hparent, ?_⟩
  rintro ⟨out, hout, -, hsuffix⟩
  rw [hparent, String.empty_append] at hout
  rw [← hout] at hsuffix
  exact absurd hsuffix (by decide)

/-- The default output for a file is the file itself only if the file is named as an executable, and
then always, but for the two names with no more than dots in front of their extension. -/
theorem default_output_is_input_only_for_executable (dir name : String)
    (hdir : IsDirectoryPart dir.toList) (hname : IsFileName name.toList) :
    ofInput (dir ++ name) = dir ++ name ↔
      ".mqa".toList <:+ name.toList ∧ name ≠ ".mqa" ∧ name ≠ "..mqa" := by
  obtain ⟨out, hrenamed, hout⟩ := exists_ofInput_eq hdir hname
  rw [hout]
  constructor
  · intro hsame
    rw [← String.toList_inj, String.toList_append, String.toList_append] at hsame
    obtain ⟨hsuffix, hne, hdot⟩ :=
      hrenamed.executable_of_eq hname (List.append_cancel_left hsame)
    exact ⟨hsuffix, fun h => hne (congrArg String.toList h),
      fun h => hdot (congrArg String.toList h)⟩
  · rintro ⟨⟨stem, hstem⟩, hne, hdot⟩
    have hkept : out.toList = name.toList := by
      apply hrenamed.eq_of_executable hstem.symm
      · rintro rfl
        exact hne (String.toList_injective hstem.symm)
      · rintro rfl
        exact hdot (String.toList_injective hstem.symm)
    rw [String.toList_injective hkept]

/-- An executable with a dot in front of its stem is its own output, and one with nothing but dots
in front of its extension is not. -/
theorem default_output_is_input_only_for_executable_dots :
    ofInput ("a.d/" ++ ".b.mqa") = "a.d/" ++ ".b.mqa" ∧
      ofInput ("a.d/" ++ "..mqa") ≠ "a.d/" ++ "..mqa" := by
  constructor
  · exact (default_output_is_input_only_for_executable "a.d/" ".b.mqa" (.inr (by decide))
      ⟨by decide, by decide, by decide, by decide⟩).2 ⟨by decide, by decide, by decide⟩
  · intro hsame
    exact ((default_output_is_input_only_for_executable "a.d/" "..mqa" (.inr (by decide))
      ⟨by decide, by decide, by decide, by decide⟩).1 hsame).2.2 rfl

end MqAssembler.OutputPath
