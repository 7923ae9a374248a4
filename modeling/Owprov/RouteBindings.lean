import Owprov.Request

/-!
# Bindings of a request path

`RESTAPIHandler::ParseBindings` tries the endpoints of a handler on the path of a request, segment
by segment.  The map of bindings is cleared before the first endpoint only, so what an endpoint
bound before its first other segment is still there when a later one matches, or none does.
-/

namespace Owprov

/-! ## The code -/

/-- A map from names to segments, which has each name once. -/
abbrev BindingMap := List (String × String)

/-- `bindings[name] = segment`. -/
def BindingMap.set (bindings : BindingMap) (name segment : String) : BindingMap :=
  (name, segment) :: bindings.filter fun binding => binding.1 ≠ name

/-- Whether an endpoint's segment starts with a brace. -/
def isParameter (paramItem : String) : Bool :=
  paramItem.toList.head? == some (Char.ofNat 123)

/-- The name under which a parameter is bound: the segment without its first and last
characters, in lower case. -/
def paramName (paramItem : String) : String :=
  toLower (String.ofList ((paramItem.toList.drop 1).take (paramItem.length - 2)))

/-- The segments of a path beside those of an endpoint: whether all of them matched, and the
bindings by then. -/
def parseItems : List (String × String) → BindingMap → Bool × BindingMap
  | [], bindings => (true, bindings)
  | (pathItem, paramItem) :: items, bindings =>
      if pathItem ≠ paramItem then
        if isParameter paramItem then
          parseItems items (bindings.set (paramName paramItem) pathItem)
        else (false, bindings)
      else parseItems items bindings

/-- The endpoints in turn; those of another number of segments are passed over. -/
def parseEndPoints (pathItems : List String) : List (List String) → BindingMap → Bool × BindingMap
  | [], bindings => (false, bindings)
  | paramItems :: endPoints, bindings =>
      if pathItems.length ≠ paramItems.length then
        parseEndPoints pathItems endPoints bindings
      else
        match parseItems (pathItems.zip paramItems) bindings with
        | (true, bound) => (true, bound)
        | (false, bound) => parseEndPoints pathItems endPoints bound

/-- `ParseBindings` with Poco's tokenizer at slashes. -/
def parseBindings (tokenizer : String → List String) (request : String)
    (endPoints : List String) : Bool × BindingMap :=
  parseEndPoints (tokenizer request) (endPoints.map tokenizer) []

/-! ## Matches -/

/-- The endpoint has as many segments as the path, and each of its literal segments is there. -/
def Matches (pathItems paramItems : List String) : Prop :=
  pathItems.length = paramItems.length ∧
    ∀ item ∈ pathItems.zip paramItems, isParameter item.2 = true ∨ item.1 = item.2

instance (pathItems paramItems : List String) : Decidable (Matches pathItems paramItems) :=
  inferInstanceAs (Decidable (_ ∧ _))

/-- The names of the parameters of an endpoint, each with the segment of the path in its place. -/
def parameterPairs (pathItems paramItems : List String) : List (String × String) :=
  ((pathItems.zip paramItems).filter fun item => isParameter item.2).map fun item =>
    (paramName item.2, item.1)

/-- The path matches the endpoint that comes first of those that match, the bindings are its
parameters, and without such an endpoint there are none. -/
def BindingsExact (tokenizer : String → List String) (request : String)
    (endPoints : List String) : Prop :=
  match (endPoints.map tokenizer).find? fun paramItems =>
      decide (Matches (tokenizer request) paramItems) with
  | some paramItems =>
      (parseBindings tokenizer request endPoints).1 = true ∧
        ∀ binding, binding ∈ (parseBindings tokenizer request endPoints).2 ↔
          binding ∈ parameterPairs (tokenizer request) paramItems
  | none => parseBindings tokenizer request endPoints = (false, [])

/-! ## What an endpoint binds -/

/-- The pairs that are bound up to the first literal segment that differs; a segment of the path
that is the text of its parameter is not bound. -/
def boundPairs : List (String × String) → List (String × String)
  | [] => []
  | (pathItem, paramItem) :: items =>
      if pathItem ≠ paramItem then
        if isParameter paramItem then (paramName paramItem, pathItem) :: boundPairs items
        else []
      else boundPairs items

/-- What endpoints that do not match leave behind. -/
def leftovers (pathItems : List String) (endPoints : List (List String)) :
    List (String × String) :=
  (endPoints.filter fun paramItems => pathItems.length = paramItems.length).flatMap
    fun paramItems => boundPairs (pathItems.zip paramItems)

def setAll (bindings : BindingMap) (pairs : List (String × String)) : BindingMap :=
  pairs.foldl (fun bindings pair => bindings.set pair.1 pair.2) bindings

theorem parseItems_eq (items : List (String × String)) (bindings : BindingMap) :
    parseItems items bindings =
      (decide (∀ item ∈ items, isParameter item.2 = true ∨ item.1 = item.2),
        setAll bindings (boundPairs items)) := by
  induction items generalizing bindings with
  | nil => rfl
  | cons item items ih =>
      obtain ⟨pathItem, paramItem⟩ := item
      rw [parseItems, boundPairs]
      by_cases same : pathItem = paramItem
      · rw [if_neg (not_not.mpr same), if_neg (not_not.mpr same), ih]
        simp only [List.forall_mem_cons, same, or_true, true_and]
      · rw [if_pos same, if_pos same]
        by_cases parameter : isParameter paramItem = true
        · rw [if_pos parameter, if_pos parameter, ih]
          simp only [List.forall_mem_cons, parameter, true_or, true_and]
          rfl
        · rw [if_neg parameter, if_neg parameter]
          simp only [List.forall_mem_cons, parameter, same, or_self, false_and, decide_false,
            Bool.false_eq_true]
          rfl

theorem leftovers_cons_of_same {pathItems paramItems : List String}
    (sameCount : pathItems.length = paramItems.length) (endPoints : List (List String)) :
    leftovers pathItems (paramItems :: endPoints) =
      boundPairs (pathItems.zip paramItems) ++ leftovers pathItems endPoints := by
  rw [leftovers, List.filter_cons_of_pos (by rwa [decide_eq_true_eq]), List.flatMap_cons]
  rfl

theorem leftovers_cons_of_other {pathItems paramItems : List String}
    (other : pathItems.length ≠ paramItems.length) (endPoints : List (List String)) :
    leftovers pathItems (paramItems :: endPoints) = leftovers pathItems endPoints := by
  rw [leftovers, List.filter_cons_of_neg (by rwa [decide_eq_true_eq])]
  rfl

theorem setAll_append (bindings : BindingMap) (first second : List (String × String)) :
    setAll bindings (first ++ second) = setAll (setAll bindings first) second :=
  List.foldl_append

theorem parseEndPoints_eq (pathItems : List String) (endPoints : List (List String))
    (bindings : BindingMap) :
    parseEndPoints pathItems endPoints bindings =
      match endPoints.find? fun paramItems => decide (Matches pathItems paramItems) with
      | some paramItems =>
          (true, setAll (setAll bindings (leftovers pathItems (endPoints.takeWhile
            fun paramItems => !decide (Matches pathItems paramItems))))
              (boundPairs (pathItems.zip paramItems)))
      | none => (false, setAll bindings (leftovers pathItems endPoints)) := by
  induction endPoints generalizing bindings with
  | nil => rfl
  | cons paramItems endPoints ih =>
      rw [parseEndPoints]
      by_cases sameCount : pathItems.length = paramItems.length
      · rw [if_neg (not_not.mpr sameCount), parseItems_eq]
        by_cases literals : ∀ item ∈ pathItems.zip paramItems,
            isParameter item.2 = true ∨ item.1 = item.2
        · have matching : Matches pathItems paramItems := ⟨sameCount, literals⟩
          rw [decide_eq_true literals, List.find?_cons_of_pos (by rwa [decide_eq_true_eq]),
            List.takeWhile_cons_of_neg (by simpa using matching)]
          rfl
        · have other : ¬Matches pathItems paramItems := fun matching => literals matching.2
          rw [decide_eq_false literals, List.find?_cons_of_neg (by rwa [decide_eq_true_eq]),
            List.takeWhile_cons_of_pos (by simpa using other)]
          dsimp only
          rw [ih, leftovers_cons_of_same sameCount, leftovers_cons_of_same sameCount,
            setAll_append, setAll_append]
      · have other : ¬Matches pathItems paramItems := fun matching => sameCount matching.1
        rw [if_pos sameCount, List.find?_cons_of_neg (by rwa [decide_eq_true_eq]),
          List.takeWhile_cons_of_pos (by simpa using other), ih,
          leftovers_cons_of_other sameCount, leftovers_cons_of_other sameCount]

/-! ## What a map has -/

/-- The segment that a name is bound to last. -/
def lastBound (name : String) : List (String × String) → Option String
  | [] => none
  | (other, segment) :: pairs =>
      match lastBound name pairs with
      | some later => some later
      | none => if other = name then some segment else none

theorem lastBound_append (name : String) (first second : List (String × String)) :
    lastBound name (first ++ second) = (lastBound name second).or (lastBound name first) := by
  induction first with
  | nil => rw [List.nil_append, lastBound, Option.or_none]
  | cons pair first ih =>
      obtain ⟨other, segment⟩ := pair
      rw [List.cons_append, lastBound, ih, lastBound]
      cases lastBound name second <;> rfl

theorem mem_of_lastBound {name segment : String} {pairs : List (String × String)}
    (bound : lastBound name pairs = some segment) : (name, segment) ∈ pairs := by
  induction pairs with
  | nil => cases bound
  | cons pair pairs ih =>
      obtain ⟨other, first⟩ := pair
      rw [lastBound] at bound
      cases later : lastBound name pairs with
      | some last =>
          rw [later] at bound
          exact List.mem_cons_of_mem _ (ih (later.trans bound))
      | none =>
          rw [later] at bound
          by_cases same : other = name
          · obtain rfl : first = segment := by simpa [same] using bound
            rw [same]
            exact List.mem_cons_self
          · simp [same] at bound

theorem mem_set {bindings : BindingMap} {name segment other value : String} :
    (other, value) ∈ bindings.set name segment ↔
      if other = name then value = segment else (other, value) ∈ bindings := by
  rw [BindingMap.set, List.mem_cons, List.mem_filter, Prod.mk.injEq, decide_eq_true_eq]
  by_cases same : other = name
  · simp [same]
  · simp [same]

/-- A map has what was bound last, and of the names that were not bound what it had. -/
theorem mem_setAll {bindings : BindingMap} {pairs : List (String × String)}
    {name segment : String} :
    (name, segment) ∈ setAll bindings pairs ↔
      match lastBound name pairs with
      | some last => segment = last
      | none => (name, segment) ∈ bindings := by
  induction pairs generalizing bindings with
  | nil => rfl
  | cons pair pairs ih =>
      obtain ⟨other, first⟩ := pair
      have rest : setAll bindings ((other, first) :: pairs) =
          setAll (bindings.set other first) pairs := rfl
      rw [rest, ih, lastBound]
      cases lastBound name pairs with
      | some last => rfl
      | none =>
          dsimp only
          rw [mem_set]
          by_cases same : name = other
          · rw [if_pos same, if_pos same.symm]
          · rw [if_neg same, if_neg (Ne.symm same)]

theorem setAll_nil_eq_nil_iff {pairs : List (String × String)} :
    setAll [] pairs = [] ↔ pairs = [] := by
  constructor
  · intro nothing
    cases pairs with
    | nil => rfl
    | cons pair pairs =>
        obtain ⟨name, segment⟩ := pair
        have bound : lastBound name ((name, segment) :: pairs) ≠ none := by
          rw [lastBound]
          cases lastBound name pairs <;> simp
        obtain ⟨last, isLast⟩ := Option.ne_none_iff_exists'.mp bound
        have member : (name, last) ∈ setAll [] ((name, segment) :: pairs) := by
          rw [mem_setAll, isLast]
        rw [nothing] at member
        cases member
  · rintro rfl
    rfl

/-! ## Exact bindings -/

theorem mem_parameterPairs_of_boundPairs {pathItems paramItems : List String}
    {pair : String × String} (bound : pair ∈ boundPairs (pathItems.zip paramItems)) :
    pair ∈ parameterPairs pathItems paramItems := by
  rw [parameterPairs]
  generalize pathItems.zip paramItems = items at bound ⊢
  induction items with
  | nil => cases bound
  | cons item items ih =>
      obtain ⟨pathItem, paramItem⟩ := item
      rw [boundPairs] at bound
      by_cases parameter : isParameter paramItem = true
      · rw [List.filter_cons_of_pos (p := fun item : String × String => isParameter item.2)
            (a := (pathItem, paramItem)) parameter, List.map_cons]
        rw [if_pos parameter] at bound
        split at bound
        · rcases List.mem_cons.mp bound with rfl | later
          · exact List.mem_cons_self
          · exact List.mem_cons_of_mem _ (ih later)
        · exact List.mem_cons_of_mem _ (ih bound)
      · rw [List.filter_cons_of_neg (p := fun item : String × String => isParameter item.2)
            (a := (pathItem, paramItem)) parameter]
        rw [if_neg parameter] at bound
        split at bound
        · cases bound
        · exact ih bound

/-- Parameters of one name have one segment, and of a name that the endpoint does not bind the
earlier endpoints have left what the endpoint has for it: nothing, unless the segment is the text
of the parameter. -/
structure BindingsClean (pathItems : List String) (earlier : List (List String))
    (paramItems : List String) : Prop where
  unambiguous : ∀ first ∈ parameterPairs pathItems paramItems,
    ∀ second ∈ parameterPairs pathItems paramItems, first.1 = second.1 → first = second
  others : ∀ name, lastBound name (boundPairs (pathItems.zip paramItems)) = none →
    ∀ segment, lastBound name (leftovers pathItems earlier) = some segment ↔
      (name, segment) ∈ parameterPairs pathItems paramItems

theorem exact_iff_clean {pathItems paramItems : List String} {earlier : List (List String)} :
    (∀ binding, binding ∈ setAll (setAll [] (leftovers pathItems earlier))
        (boundPairs (pathItems.zip paramItems)) ↔
          binding ∈ parameterPairs pathItems paramItems) ↔
      BindingsClean pathItems earlier paramItems := by
  have has : ∀ name segment, (name, segment) ∈ setAll (setAll [] (leftovers pathItems earlier))
      (boundPairs (pathItems.zip paramItems)) ↔
        ((lastBound name (boundPairs (pathItems.zip paramItems))).or
          (lastBound name (leftovers pathItems earlier))) = some segment := by
    intro name segment
    rw [← setAll_append, mem_setAll, lastBound_append]
    cases (lastBound name (boundPairs (pathItems.zip paramItems))).or
      (lastBound name (leftovers pathItems earlier)) with
    | none => simp
    | some last => simp [eq_comm]
  constructor
  · intro exact
    refine ⟨?_, ?_⟩
    · rintro ⟨name, first⟩ firstMem ⟨other, second⟩ secondMem rfl
      have one := (has name first).mp ((exact _).mpr firstMem)
      have two := (has name second).mp ((exact _).mpr secondMem)
      rw [one] at two
      rw [Option.some.inj two]
    · intro name unbound segment
      have held := has name segment
      rw [unbound, Option.none_or] at held
      rw [← held, exact]
  · intro clean binding
    obtain ⟨name, segment⟩ := binding
    rw [has]
    cases bound : lastBound name (boundPairs (pathItems.zip paramItems)) with
    | none =>
        rw [Option.none_or]
        exact clean.others name bound segment
    | some last =>
        have own := mem_parameterPairs_of_boundPairs (mem_of_lastBound bound)
        rw [Option.some_or]
        constructor
        · intro same
          rwa [← Option.some.inj same]
        · intro member
          have equal := clean.unambiguous _ own _ member rfl
          rw [(Prod.mk.inj equal).2]

/-- The bindings of a path are clean: after the endpoints before the one that matches, or after
all of them when none matches, where nothing may be left. -/
def RouteClean (tokenizer : String → List String) (request : String) (endPoints : List String) :
    Prop :=
  match (endPoints.map tokenizer).find? fun paramItems =>
      decide (Matches (tokenizer request) paramItems) with
  | some paramItems =>
      BindingsClean (tokenizer request) ((endPoints.map tokenizer).takeWhile fun paramItems =>
        !decide (Matches (tokenizer request) paramItems)) paramItems
  | none => leftovers (tokenizer request) (endPoints.map tokenizer) = []

/-- The bindings are exact for the requests whose bindings stay clean. -/
theorem parseBindings_exact_iff (tokenizer : String → List String) (request : String)
    (endPoints : List String) :
    BindingsExact tokenizer request endPoints ↔ RouteClean tokenizer request endPoints := by
  unfold BindingsExact RouteClean parseBindings
  rw [parseEndPoints_eq]
  cases (endPoints.map tokenizer).find? fun paramItems =>
      decide (Matches (tokenizer request) paramItems) with
  | none =>
      dsimp only
      rw [Prod.mk.injEq, setAll_nil_eq_nil_iff]
      exact and_iff_right rfl
  | some paramItems =>
      dsimp only
      rw [exact_iff_clean]
      exact and_iff_right rfl

/-- Poco's tokenizer on a text that is not empty. -/
def splitAtSlashes (text : String) : List String :=
  (text.toList.splitOn '/').map String.ofList

/-- The first endpoint leaves its `id` for the second, which has none. -/
theorem leftover_binding :
    ¬BindingsExact splitAtSlashes "/api/7/status" ["/api/{id}/config", "/api/{uuid}/status"] := by
  intro exact
  have chosen : (["/api/{id}/config", "/api/{uuid}/status"].map splitAtSlashes).find?
      (fun paramItems => decide (Matches (splitAtSlashes "/api/7/status") paramItems)) =
        some ["", "api", "{uuid}", "status"] := by decide
  unfold BindingsExact at exact
  rw [chosen] at exact
  have left : ("id", "7") ∈ parameterPairs (splitAtSlashes "/api/7/status")
      ["", "api", "{uuid}", "status"] := (exact.2 ("id", "7")).mp (by decide)
  exact absurd left (by decide)

end Owprov
