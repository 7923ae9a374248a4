import Owprov.Request

/-!
# Certificate chains of RADSEC endpoints

`RadiusEndpointUpdater::ParseCertChain` splits a chain of PEM certificates into its blocks.  The
text of the current certificate is appended to at each line and is not emptied at the end of a
block.
-/

namespace Owprov

/-! ## The code -/

/-- The rest of the lines that `std::getline` reads, after some characters of the first. -/
def getlinesFrom (line : List Char) : List Char → List String
  | [] => if line = [] then [] else [String.ofList line]
  | char :: chars =>
      if char = '\n' then String.ofList line :: getlinesFrom [] chars
      else getlinesFrom (line ++ [char]) chars

/-- The lines of a text; after a last newline there is none. -/
def getlines (text : String) : List String :=
  getlinesFrom [] text.toList

def beginCertificate : String := "-----BEGIN CERTIFICATE-----"

def endCertificate : String := "-----END CERTIFICATE-----"

/-- The variables of the loop. -/
structure ChainState where
  currentCert : String
  inCert : Bool
  chainVec : List String

namespace ChainState

def start : ChainState := ⟨"", false, []⟩

def step (state : ChainState) (line : String) : ChainState :=
  if line = beginCertificate then
    { state with inCert := true, currentCert := state.currentCert ++ line ++ "\n" }
  else if line = endCertificate ∧ state.inCert = true then
    { inCert := false
      currentCert := state.currentCert ++ line ++ "\n"
      chainVec := state.chainVec ++ [state.currentCert ++ line ++ "\n"] }
  else if state.inCert then { state with currentCert := state.currentCert ++ line ++ "\n" }
  else state

end ChainState

def parseCertChain (chain : String) : List String :=
  ((getlines chain).foldl ChainState.step .start).chainVec

/-! ## Chains -/

/-- A line has no newline in it. -/
abbrev Line := { line : String // '\n' ∉ line.toList }

/-- Each line with its newline. -/
def unlines : List String → String
  | [] => ""
  | line :: lines => line ++ "\n" ++ unlines lines

/-- The lines between the first and the last of a block are neither of the two. -/
structure PemBlock where
  body : List Line
  inner : ∀ line ∈ body, line.1 ≠ beginCertificate ∧ line.1 ≠ endCertificate

/-- Lines between blocks do not begin one. -/
abbrev Between := { lines : List Line // ∀ line ∈ lines, line.1 ≠ beginCertificate }

/-- Blocks, each after some text, and the text after the last. -/
structure CertChain where
  parts : List (Between × PemBlock)
  rest : Between

namespace PemBlock

def lines (block : PemBlock) : List String :=
  beginCertificate :: block.body.map (·.1) ++ [endCertificate]

def text (block : PemBlock) : String :=
  unlines block.lines

end PemBlock

namespace CertChain

def lines (chain : CertChain) : List String :=
  chain.parts.flatMap (fun part => part.1.1.map (·.1) ++ part.2.lines) ++
    chain.rest.1.map (·.1)

def blocks (chain : CertChain) : List String :=
  chain.parts.map fun part => part.2.text

/-- The text of a chain; its last newline may be missing. -/
def IsText (chain : CertChain) (text : String) : Prop :=
  text = unlines chain.lines ∨ text ++ "\n" = unlines chain.lines

end CertChain

theorem Between.ne_beginCertificate (between : Between) :
    ∀ line ∈ between.1.map (·.1), line ≠ beginCertificate := by
  intro line member
  obtain ⟨inside, isInside, rfl⟩ := List.mem_map.mp member
  exact between.2 inside isInside

theorem PemBlock.text_ne_empty (block : PemBlock) : block.text ≠ "" := by
  intro empty
  have size := congrArg String.length empty
  rw [PemBlock.text, PemBlock.lines, List.cons_append, unlines, String.length_append,
    String.length_append] at size
  have newline : "\n".length = 1 := by decide
  have nothing : "".length = 0 := by decide
  omega

theorem CertChain.lines_clean (chain : CertChain) :
    ∀ line ∈ chain.lines, '\n' ∉ line.toList := by
  have written (lines : List Line) : ∀ line ∈ lines.map (·.1), '\n' ∉ line.toList := by
    intro line member
    obtain ⟨inside, _, rfl⟩ := List.mem_map.mp member
    exact inside.2
  have first : '\n' ∉ beginCertificate.toList := by decide
  have last : '\n' ∉ endCertificate.toList := by decide
  intro line member
  rcases List.mem_append.mp member with inPart | inRest
  · obtain ⟨part, _, inPart⟩ := List.mem_flatMap.mp inPart
    rcases List.mem_append.mp inPart with inBetween | inBlock
    · exact written _ line inBetween
    · rw [PemBlock.lines, List.cons_append, List.mem_cons, List.mem_append,
        List.mem_singleton] at inBlock
      rcases inBlock with rfl | inBody | rfl
      · exact first
      · exact written _ line inBody
      · exact last
  · exact written _ line inRest

/-! ## Lines -/

theorem getlinesFrom_line (line : List Char) {word : List Char} (clean : '\n' ∉ word)
    (chars : List Char) :
    getlinesFrom line (word ++ '\n' :: chars) =
      String.ofList (line ++ word) :: getlinesFrom [] chars := by
  induction word generalizing line with
  | nil => simp [getlinesFrom]
  | cons char word ih =>
      rw [List.mem_cons, not_or] at clean
      rw [List.cons_append, getlinesFrom, if_neg (Ne.symm clean.1), ih _ clean.2,
        List.append_assoc]
      rfl

theorem unlines_append (first second : List String) :
    unlines (first ++ second) = unlines first ++ unlines second := by
  induction first with
  | nil => rw [List.nil_append, unlines, String.empty_append]
  | cons line first ih =>
      rw [List.cons_append, unlines, ih, unlines]
      simp only [String.append_assoc]

/-- One more newline ends the last line, which is the empty one when the text had ended. -/
theorem getlinesFrom_newline (line chars : List Char) :
    getlinesFrom line (chars ++ ['\n']) = getlinesFrom line chars ∨
      getlinesFrom line (chars ++ ['\n']) = getlinesFrom line chars ++ [""] := by
  induction chars generalizing line with
  | nil =>
      by_cases empty : line = []
      · rw [empty]
        exact .inr rfl
      · refine .inl ?_
        simp [getlinesFrom, empty]
  | cons char chars ih =>
      rw [List.cons_append, getlinesFrom, getlinesFrom]
      by_cases newline : char = '\n'
      · rw [if_pos newline, if_pos newline, List.cons_append]
        exact (ih []).imp (congrArg _) (congrArg _)
      · rw [if_neg newline, if_neg newline]
        exact ih _

/-- Reading lines undoes writing them. -/
theorem getlines_unlines {lines : List String} (clean : ∀ line ∈ lines, '\n' ∉ line.toList) :
    getlines (unlines lines) = lines := by
  unfold getlines
  induction lines with
  | nil => rfl
  | cons line lines ih =>
      rw [List.forall_mem_cons] at clean
      have shape : (unlines (line :: lines)).toList =
          line.toList ++ '\n' :: (unlines lines).toList := by
        simp [unlines]
      rw [shape, getlinesFrom_line [] clean.1, ih clean.2, List.nil_append, String.ofList_toList]

/-- Without the last newline an empty last line is not read. -/
theorem getlines_of_unterminated {lines : List String} {text : String}
    (clean : ∀ line ∈ lines, '\n' ∉ line.toList) (isText : text ++ "\n" = unlines lines) :
    lines = getlines text ∨ lines = getlines text ++ [""] := by
  rw [← getlines_unlines clean, ← isText]
  unfold getlines
  rw [String.toList_append]
  exact getlinesFrom_newline [] text.toList

/-! ## Blocks -/

section Blocks

variable {state : ChainState}

/-- Outside of a block only a first line has an effect. -/
theorem foldl_between {lines : List String} (outside : state.inCert = false)
    (between : ∀ line ∈ lines, line ≠ beginCertificate) :
    lines.foldl ChainState.step state = state := by
  induction lines with
  | nil => rfl
  | cons line lines ih =>
      rw [List.forall_mem_cons] at between
      have same : state.step line = state := by
        rw [ChainState.step, if_neg between.1, if_neg (by simp [outside]),
          if_neg (by simp [outside])]
      rw [List.foldl_cons, same, ih between.2]

theorem foldl_inner {lines : List String} (inside : state.inCert = true)
    (inner : ∀ line ∈ lines, line ≠ beginCertificate ∧ line ≠ endCertificate) :
    lines.foldl ChainState.step state =
      { state with currentCert := state.currentCert ++ unlines lines } := by
  induction lines generalizing state with
  | nil =>
      rw [List.foldl_nil, unlines, String.append_empty]
  | cons line lines ih =>
      rw [List.forall_mem_cons] at inner
      have read : state.step line =
          { state with currentCert := state.currentCert ++ line ++ "\n" } := by
        rw [ChainState.step, if_neg inner.1.1, if_neg fun last => inner.1.2 last.1,
          if_pos inside]
      have later := @ih ⟨state.currentCert ++ line ++ "\n", state.inCert, state.chainVec⟩
        inside inner.2
      rw [List.foldl_cons, read, later, unlines]
      simp only [String.append_assoc]

/-- An empty line ends no block. -/
theorem chainVec_step_empty : (state.step "").chainVec = state.chainVec := by
  have notFirst : "" ≠ beginCertificate := by decide
  have notLast : "" ≠ endCertificate := by decide
  rw [ChainState.step, if_neg notFirst, if_neg fun last => notLast last.1]
  split <;> rfl

/-- A block is appended to what is already there, and all of it is put out. -/
theorem foldl_block (block : PemBlock) :
    block.lines.foldl ChainState.step state =
      { inCert := false
        currentCert := state.currentCert ++ block.text
        chainVec := state.chainVec ++ [state.currentCert ++ block.text] } := by
  have first : state.step beginCertificate =
      { state with
        currentCert := state.currentCert ++ beginCertificate ++ "\n"
        inCert := true } := if_pos rfl
  have inner : ∀ line ∈ block.body.map (·.1),
      line ≠ beginCertificate ∧ line ≠ endCertificate := by
    intro line member
    obtain ⟨inside, isInside, rfl⟩ := List.mem_map.mp member
    exact block.inner inside isInside
  have last : endCertificate ≠ beginCertificate := by decide
  rw [PemBlock.lines, List.cons_append, List.foldl_cons, first, List.foldl_append,
    foldl_inner rfl inner, List.foldl_cons, List.foldl_nil, ChainState.step, if_neg last,
    if_pos ⟨rfl, rfl⟩]
  have text : block.text = beginCertificate ++ "\n" ++
      (unlines (block.body.map (·.1)) ++ (endCertificate ++ "\n")) := by
    rw [PemBlock.text, PemBlock.lines, List.cons_append, unlines, unlines_append]
    rfl
  simp only [text, String.append_assoc]

/-- The blocks of a chain, each after all of those before it. -/
def accumulated (before : String) : List String → List String
  | [] => []
  | block :: blocks => (before ++ block) :: accumulated (before ++ block) blocks

theorem foldl_chain (outside : state.inCert = false) (chain : CertChain) :
    (chain.lines.foldl ChainState.step state).chainVec =
      state.chainVec ++ accumulated state.currentCert chain.blocks := by
  obtain ⟨parts, rest⟩ := chain
  simp only [CertChain.lines, CertChain.blocks]
  rw [List.foldl_append]
  induction parts generalizing state with
  | nil =>
      rw [List.flatMap_nil, List.foldl_nil, foldl_between outside rest.ne_beginCertificate]
      exact (List.append_nil _).symm
  | cons part parts ih =>
      rw [List.flatMap_cons, List.foldl_append, List.foldl_append,
        foldl_between outside part.1.ne_beginCertificate, foldl_block, ih rfl, List.map_cons,
        accumulated, List.append_assoc]
      rfl

end Blocks

/-- What `ParseCertChain` puts out: each block after all of those before it. -/
theorem parseCertChain_eq_accumulated {chain : CertChain} {text : String}
    (isText : chain.IsText text) :
    parseCertChain text = accumulated "" chain.blocks := by
  have read : (chain.lines.foldl ChainState.step .start).chainVec =
      accumulated "" chain.blocks := foldl_chain rfl chain
  unfold parseCertChain
  rcases isText with rfl | unterminated
  · rw [getlines_unlines chain.lines_clean, read]
  · rcases getlines_of_unterminated chain.lines_clean unterminated with same | empty
    · rw [← same, read]
    · rw [← read, empty, List.foldl_append, List.foldl_cons, List.foldl_nil, chainVec_step_empty]

theorem accumulated_eq_self_iff {blocks : List String} (some : ∀ block ∈ blocks, block ≠ "") :
    accumulated "" blocks = blocks ↔ blocks.length ≤ 1 := by
  cases blocks with
  | nil => simp [accumulated]
  | cons first blocks =>
      cases blocks with
      | nil => simp [accumulated]
      | cons second blocks =>
          have longer : first ++ second ≠ second := by
            intro same
            have sizes := congrArg String.length same
            rw [String.length_append] at sizes
            have empty : first.length = 0 := by omega
            exact some first List.mem_cons_self (String.length_eq_zero_iff.mp empty)
          simp [accumulated, longer]

/-- A chain is split into its blocks when there is one at most. -/
theorem parseCertChain_exact_iff (chain : CertChain) (text : String)
    (isText : chain.IsText text) :
    parseCertChain text = chain.blocks ↔ chain.blocks.length ≤ 1 := by
  rw [parseCertChain_eq_accumulated isText]
  apply accumulated_eq_self_iff
  intro block member
  obtain ⟨part, _, rfl⟩ := List.mem_map.mp member
  exact part.2.text_ne_empty

def pemBlock (data : String) (clean : '\n' ∉ data.toList)
    (inner : data ≠ beginCertificate ∧ data ≠ endCertificate) : PemBlock where
  body := [⟨data, clean⟩]
  inner := by
    intro line member
    rw [List.mem_singleton.mp member]
    exact inner

def leafBlock : PemBlock :=
  pemBlock "MIIB" (by decide) (by decide)

def issuerBlock : PemBlock :=
  pemBlock "MIIC" (by decide) (by decide)

def noText : Between :=
  ⟨[], by simp⟩

theorem parseCertChain_leaf :
    parseCertChain (unlines (CertChain.lines ⟨[(noText, leafBlock)], noText⟩)) =
      [leafBlock.text] :=
  (parseCertChain_exact_iff ⟨[(noText, leafBlock)], noText⟩ _ (.inl rfl)).mpr (by decide)

/-- The second block of a chain comes out with the first before it. -/
theorem leaf_in_issuer :
    parseCertChain (unlines (CertChain.lines
        ⟨[(noText, leafBlock), (noText, issuerBlock)], noText⟩)) =
      [leafBlock.text, leafBlock.text ++ issuerBlock.text] ∧
      parseCertChain (unlines (CertChain.lines
        ⟨[(noText, leafBlock), (noText, issuerBlock)], noText⟩)) ≠
          CertChain.blocks ⟨[(noText, leafBlock), (noText, issuerBlock)], noText⟩ := by
  decide +kernel

end Owprov
