import MacroExpansion.Options

/-!
# Options in a row

An option is accepted if and only if it is one of three texts. Any other value behind the key of the
strategy is refused as a value, and any other text as a whole.

`Options.setAll` hands texts over one after the other. Each of them meets what those before it left,
and a refused one leaves everything as it is, so in the end the last accepted text has decided on
the strategy, however many were refused behind it. The path of the runtime is never touched.
-/

namespace MacroExpansion

namespace Strategy

theorem ofName?_eq_some_iff {name : String} {strategy : Strategy} :
    ofName? name = some strategy ↔ strategy.name = name := by
  unfold ofName?
  constructor
  · intro found
    have same := List.find?_some found
    exact eq_of_beq same
  · rintro rfl
    cases strategy <;> rfl

theorem ofName?_eq_none_iff {name : String} :
    ofName? name = none ↔ name ≠ "inline" ∧ name ≠ "closure" := by
  rw [Option.eq_none_iff_forall_ne_some]
  constructor
  · intro missing
    refine ⟨?_, ?_⟩ <;> rintro rfl
    · exact missing .inline (ofName?_eq_some_iff.mpr rfl)
    · exact missing .closure (ofName?_eq_some_iff.mpr rfl)
  · rintro ⟨notInline, notClosure⟩ strategy found
    obtain rfl := ofName?_eq_some_iff.mp found
    cases strategy with
    | inline => exact notInline rfl
    | closure => exact notClosure rfl

end Strategy

namespace Options

/-! ### Where a text is cut -/

/-- The text is a key and a value around its first equals sign. -/
structure Cut (text key value : String) : Prop where
  joined : text = key ++ "=" ++ value
  first : '=' ∉ key.toList

theorem split_of_mem {key : List Char} (first : '=' ∉ key) (value : List Char) :
    split (key ++ '=' :: value) = (key, some value) := by
  have kept : ∀ c ∈ key, decide (c ≠ '=') = true := by
    intro c among
    exact decide_eq_true fun same => first (same ▸ among)
  rw [split, List.dropWhile_append_of_pos kept, List.takeWhile_append_of_pos kept]
  simp

theorem split_of_not_mem {text : List Char} (whole : '=' ∉ text) : split text = (text, none) := by
  have kept : ∀ c ∈ text, decide (c ≠ '=') = true := by
    intro c among
    exact decide_eq_true fun same => whole (same ▸ among)
  have all : (text ++ []).dropWhile (· ≠ '=') = [].dropWhile (· ≠ '=') :=
    List.dropWhile_append_of_pos kept
  rw [List.append_nil] at all
  rw [split, all, List.dropWhile_nil]

theorem Cut.split_eq {text key value : String} (cut : Cut text key value) :
    split text.toList = (key.toList, some value.toList) := by
  have spelled : text.toList = key.toList ++ '=' :: value.toList := by simp [cut.joined]
  rw [spelled, split_of_mem cut.first]

/-- A text has one cut at most. -/
theorem Cut.unique {text key value key' value' : String} (cut : Cut text key value)
    (other : Cut text key' value') : key = key' ∧ value = value' := by
  have same := cut.split_eq.symm.trans other.split_eq
  simpa [String.toList_inj] using same

theorem Cut.mem {text key value : String} (cut : Cut text key value) : '=' ∈ text.toList := by
  simp [cut.joined]

/-- A text without a cut has no equals sign. -/
theorem exists_cut_or_not_mem (text : String) :
    (∃ key value, Cut text key value) ∨ '=' ∉ text.toList := by
  by_cases among : '=' ∈ text.toList
  · obtain ⟨key, value, joined, first⟩ := List.eq_append_cons_of_mem among
    refine .inl ⟨.ofList key, .ofList value, ?_, by simpa using first⟩
    rw [← String.toList_inj, joined]
    simp
  · exact .inr among

theorem not_mem_strategyKey : '=' ∉ strategyKey.toList := by decide

/-! ### One option -/

/-- The texts that are accepted, and the strategy that each of them asks for. -/
inductive Asks : String → Strategy → Prop where
  | bare : Asks "unwrap-strategy" .inline
  | inline : Asks "unwrap-strategy=inline" .inline
  | closure : Asks "unwrap-strategy=closure" .closure

theorem asks_iff {text : String} :
    (∃ strategy, Asks text strategy) ↔
      text ∈ ["unwrap-strategy", "unwrap-strategy=inline", "unwrap-strategy=closure"] := by
  constructor
  · rintro ⟨strategy, asks⟩
    cases asks <;> decide
  · intro among
    simp only [List.mem_cons, List.not_mem_nil, or_false] at among
    obtain rfl | rfl | rfl := among
    · exact ⟨_, .bare⟩
    · exact ⟨_, .inline⟩
    · exact ⟨_, .closure⟩

theorem Asks.unique {text : String} {strategy other : Strategy} (first : Asks text strategy)
    (second : Asks text other) : strategy = other := by
  generalize same : text = text' at second
  cases first <;> cases second <;> first | rfl | exact absurd same (by decide)

/-- With a value behind the key, it is the value that asks for a strategy. -/
theorem Cut.asks_iff {text value : String} (cut : Cut text strategyKey value)
    (strategy : Strategy) : Asks text strategy ↔ Strategy.ofName? value = some strategy := by
  rw [Strategy.ofName?_eq_some_iff]
  constructor
  · intro asks
    cases asks with
    | bare => exact absurd cut.mem not_mem_strategyKey
    | inline => exact (cut.unique ⟨rfl, not_mem_strategyKey⟩).2.symm
    | closure => exact (cut.unique ⟨rfl, not_mem_strategyKey⟩).2.symm
  · rintro rfl
    obtain rfl := cut.joined
    cases strategy with
    | inline => exact .inline
    | closure => exact .closure

/-- A text that asks for a strategy is the key, or the key with a value. -/
theorem Asks.key {text : String} {strategy : Strategy} (asks : Asks text strategy) :
    text = strategyKey ∨ ∃ value, Cut text strategyKey value := by
  cases asks with
  | bare => exact .inl rfl
  | inline => exact .inr ⟨"inline", rfl, not_mem_strategyKey⟩
  | closure => exact .inr ⟨"closure", rfl, not_mem_strategyKey⟩

/-- What comes of a text: a strategy, a complaint about the value behind the key, or a complaint
about the whole text. -/
inductive Answers (options : Options) (text : String) : Except OptionError Options → Prop where
  | accepted {strategy : Strategy} (asks : Asks text strategy) :
      Answers options text (.ok { options with strategy := strategy })
  | value {value : String} (cut : Cut text "unwrap-strategy" value) (notInline : value ≠ "inline")
      (notClosure : value ≠ "closure") :
      Answers options text (.error (.unsupportedValue "unwrap-strategy" value))
  | option (notKey : text ≠ "unwrap-strategy")
      (noValue : ∀ value, ¬ Cut text "unwrap-strategy" value) :
      Answers options text (.error (.unsupportedOption text))

variable {options : Options} {text : String}

theorem answers_of_cut {key value : String} (cut : Cut text key value) :
    Answers options text (options.set text) := by
  rw [set, cut.split_eq]
  simp only [String.ofList_toList]
  by_cases own : key = strategyKey
  · subst own
    rw [if_pos rfl]
    cases found : Strategy.ofName? value with
    | some strategy => exact .accepted ((cut.asks_iff strategy).mpr found)
    | none =>
        obtain ⟨notInline, notClosure⟩ := Strategy.ofName?_eq_none_iff.mp found
        exact .value cut notInline notClosure
  · rw [if_neg own]
    refine .option ?_ fun other cut' => own (cut.unique cut').1
    rintro rfl
    exact not_mem_strategyKey cut.mem

theorem answers_of_not_mem (whole : '=' ∉ text.toList) :
    Answers options text (options.set text) := by
  rw [set, split_of_not_mem whole]
  simp only [String.ofList_toList]
  by_cases own : text = strategyKey
  · subst own
    rw [if_pos rfl]
    exact .accepted .bare
  · rw [if_neg own]
    exact .option own fun value cut => whole cut.mem

theorem answers_set (options : Options) (text : String) :
    Answers options text (options.set text) := by
  obtain ⟨key, value, cut⟩ | whole := exists_cut_or_not_mem text
  · exact answers_of_cut cut
  · exact answers_of_not_mem whole

/-- The rules do not overlap. -/
theorem Answers.unique {result other : Except OptionError Options}
    (first : Answers options text result) (second : Answers options text other) :
    result = other := by
  have apart {strategy : Strategy} {value : String} (asks : Asks text strategy)
      (cut : Cut text strategyKey value) (notInline : value ≠ "inline")
      (notClosure : value ≠ "closure") : False := by
    have none := Strategy.ofName?_eq_none_iff.mpr ⟨notInline, notClosure⟩
    exact Option.some_ne_none _ (((cut.asks_iff strategy).mp asks).symm.trans none)
  have known {strategy : Strategy} (asks : Asks text strategy) (notKey : text ≠ strategyKey)
      (noValue : ∀ value, ¬ Cut text strategyKey value) : False := by
    obtain same | ⟨value, cut⟩ := asks.key
    · exact notKey same
    · exact noValue value cut
  cases first with
  | accepted asks =>
      cases second with
      | accepted asks' => rw [asks.unique asks']
      | value cut notInline notClosure => exact (apart asks cut notInline notClosure).elim
      | option notKey noValue => exact (known asks notKey noValue).elim
  | value cut notInline notClosure =>
      cases second with
      | accepted asks => exact (apart asks cut notInline notClosure).elim
      | value cut' => rw [(cut.unique cut').2]
      | option notKey noValue => exact absurd cut (noValue _)
  | option notKey noValue =>
      cases second with
      | accepted asks => exact (known asks notKey noValue).elim
      | value cut => exact absurd cut (noValue _)
      | option => rfl

theorem set_eq_iff {result : Except OptionError Options} :
    options.set text = result ↔ Answers options text result := by
  constructor
  · rintro rfl
    exact answers_set options text
  · exact (answers_set options text).unique

/-! ### Options in a row -/

/-- What one text leaves: the strategy it asks for, or everything as it was and the reason. -/
inductive Leaves (options : Options) (text : String) : Options → Option OptionError → Prop where
  | accepted {strategy : Strategy} (asks : Asks text strategy) :
      Leaves options text { options with strategy := strategy } none
  | refused {error : OptionError} (why : options.set text = .error error) :
      Leaves options text options (some error)

theorem Leaves.module_eq {options next : Options} {text : String}
    {refusal : Option OptionError} (leaves : Leaves options text next refusal) :
    next.module = options.module := by
  cases leaves <;> rfl

/-- A row of texts is one text after the other. -/
theorem setAll_cons (options : Options) (text : String) (rest : List String) :
    ∃ refusal, options.setAll (text :: rest) =
        (options.setOrKeep text, refusal) :: (options.setOrKeep text).setAll rest ∧
      Leaves options text (options.setOrKeep text) refusal := by
  have answers := answers_set options text
  rw [setAll, setOrKeep]
  cases answered : options.set text with
  | error error => exact ⟨some error, rfl, .refused answered⟩
  | ok next =>
      rw [answered] at answers
      cases answers with
      | accepted asks => exact ⟨none, rfl, .accepted asks⟩

/-- The options that a row of texts leaves. -/
def reached (options : Options) (texts : List String) : Options :=
  ((options.setAll texts).getLast?.map Prod.fst).getD options

theorem reached_nil (options : Options) : options.reached [] = options := rfl

theorem reached_cons (options : Options) (text : String) (rest : List String) :
    options.reached (text :: rest) = (options.setOrKeep text).reached rest := by
  obtain ⟨refusal, steps, -⟩ := setAll_cons options text rest
  rw [reached, reached, steps, List.getLast?_cons]
  cases ((options.setOrKeep text).setAll rest).getLast? <;> rfl

theorem length_setAll (options : Options) (texts : List String) :
    (options.setAll texts).length = texts.length := by
  induction texts generalizing options with
  | nil => rfl
  | cons text rest ih =>
      obtain ⟨_, steps, -⟩ := setAll_cons options text rest
      rw [steps, List.length_cons, ih, List.length_cons]

/-- Each text meets what those before it left. -/
theorem getElem?_setAll (options : Options) (earlier : List String) (text : String)
    (later : List String) :
    ∃ refusal, (options.setAll (earlier ++ text :: later))[earlier.length]? =
        some (options.reached (earlier ++ [text]), refusal) ∧
      Leaves (options.reached earlier) text (options.reached (earlier ++ [text])) refusal := by
  induction earlier generalizing options with
  | nil =>
      obtain ⟨refusal, steps, leaves⟩ := setAll_cons options text later
      refine ⟨refusal, ?_, ?_⟩
      · rw [List.nil_append, steps, List.nil_append, reached_cons, reached_nil]
        rfl
      · rwa [List.nil_append, reached_cons, reached_nil, reached_nil]
  | cons first earlier ih =>
      obtain ⟨_, steps, -⟩ := setAll_cons options first (earlier ++ text :: later)
      obtain ⟨refusal, own, leaves⟩ := ih (options.setOrKeep first)
      refine ⟨refusal, ?_, ?_⟩
      · rw [List.cons_append, steps, List.cons_append, reached_cons, ← own]
        rfl
      · rwa [List.cons_append, reached_cons, reached_cons]

/-- The strategy is that of the last text that asks for one, or the first one if none does. -/
inductive Decides (first : Strategy) : List String → Strategy → Prop where
  | none {texts : List String} (silent : ∀ text ∈ texts, ∀ strategy, ¬ Asks text strategy) :
      Decides first texts first
  | last {earlier : List String} {text : String} {strategy : Strategy} {later : List String}
      (asks : Asks text strategy) (silent : ∀ text ∈ later, ∀ strategy, ¬ Asks text strategy) :
      Decides first (earlier ++ text :: later) strategy

/-- One more text in front decides only if no later one does. -/
theorem Decides.cons {options next : Options} {text : String} {refusal : Option OptionError}
    (leaves : Leaves options text next refusal) {texts : List String} {strategy : Strategy}
    (decides : Decides next.strategy texts strategy) :
    Decides options.strategy (text :: texts) strategy := by
  cases decides with
  | @last earlier last _ later asks silent =>
      have split : text :: (earlier ++ last :: later) = (text :: earlier) ++ last :: later := rfl
      rw [split]
      exact .last asks silent
  | none silent =>
      cases leaves with
      | accepted asks =>
          rw [← List.nil_append (text :: texts)]
          exact .last asks silent
      | refused why =>
          refine .none (List.forall_mem_cons.mpr ⟨fun strategy asks => ?_, silent⟩)
          rw [set_eq_iff.mpr (.accepted asks)] at why
          cases why

theorem decides_reached (options : Options) (texts : List String) :
    Decides options.strategy texts (options.reached texts).strategy := by
  induction texts generalizing options with
  | nil => exact .none (List.forall_mem_nil _)
  | cons text rest ih =>
      obtain ⟨refusal, -, leaves⟩ := setAll_cons options text rest
      rw [reached_cons]
      exact (ih _).cons leaves

theorem module_reached (options : Options) (texts : List String) :
    (options.reached texts).module = options.module := by
  induction texts generalizing options with
  | nil => rfl
  | cons text rest ih =>
      obtain ⟨refusal, -, leaves⟩ := setAll_cons options text rest
      rw [reached_cons, ih, leaves.module_eq]

/-- Three texts are accepted, another value behind the key is refused as a value, and any other text
as a whole. In a row each text meets what those before it left; a refused one changes nothing, none
touches the path of the runtime, and the last accepted one has decided on the strategy. -/
theorem last_accepted_decides (options : Options) (texts : List String) :
    (∀ (current : Options) (text : String),
      ((∃ next, current.set text = .ok next) ↔
        text ∈ ["unwrap-strategy", "unwrap-strategy=inline", "unwrap-strategy=closure"]) ∧
      (∀ key value, current.set text = .error (.unsupportedValue key value) ↔
        key = "unwrap-strategy" ∧ Cut text key value ∧ value ≠ "inline" ∧ value ≠ "closure") ∧
      ∀ whole, current.set text = .error (.unsupportedOption whole) ↔
        whole = text ∧ text ≠ "unwrap-strategy" ∧ ∀ value, ¬ Cut text "unwrap-strategy" value) ∧
    (options.setAll texts).length = texts.length ∧
    (∀ earlier text later, texts = earlier ++ text :: later →
      ∃ refusal, (options.setAll texts)[earlier.length]? =
          some (options.reached (earlier ++ [text]), refusal) ∧
        Leaves (options.reached earlier) text (options.reached (earlier ++ [text])) refusal) ∧
    (options.reached texts).module = options.module ∧
    Decides options.strategy texts (options.reached texts).strategy := by
  refine ⟨fun current text => ⟨?_, ?_, ?_⟩, ?_, ?_, ?_, ?_⟩
  · rw [← asks_iff]
    constructor
    · rintro ⟨next, accepted⟩
      cases set_eq_iff.mp accepted with
      | accepted asks => exact ⟨_, asks⟩
    · rintro ⟨strategy, asks⟩
      exact ⟨_, set_eq_iff.mpr (.accepted asks)⟩
  · intro key value
    rw [set_eq_iff]
    constructor
    · rintro (_ | ⟨cut, notInline, notClosure⟩)
      exact ⟨rfl, cut, notInline, notClosure⟩
    · rintro ⟨rfl, cut, notInline, notClosure⟩
      exact .value cut notInline notClosure
  · intro whole
    rw [set_eq_iff]
    constructor
    · rintro (_ | _ | ⟨notKey, noValue⟩)
      exact ⟨rfl, notKey, noValue⟩
    · rintro ⟨rfl, notKey, noValue⟩
      exact .option notKey noValue
  · exact length_setAll options texts
  · rintro earlier text later rfl
    exact getElem?_setAll options earlier text later
  · exact module_reached options texts
  · exact decides_reached options texts

end Options

end MacroExpansion
