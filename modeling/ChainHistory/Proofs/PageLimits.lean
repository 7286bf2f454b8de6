import ChainHistory.Proofs.IntegerText
import ChainHistory.Proofs.PageSelection
import ChainHistory.Proofs.Startup

namespace ChainHistory

namespace Settings

open Number Text

/-- The limit that a variable sets, and what is logged of it. A text that spells no integer, or one
below the least limit, is refused with a warning. -/
inductive SetsLimit (name : String) (default least : Int) :
    Option String → Int → List LogLine → Prop
  | unset : SetsLimit name default least none default []
  | empty : SetsLimit name default least (some "") default []
  | malformed {text : String} (hne : text ≠ "") (hnone : ∀ n, ¬ Spells text.toList n) :
      SetsLimit name default least (some text) default
        [.warning s!"[ENV] Invalid {name}='{text}', using default {default}."]
  | tooLow {text : String} {n : Int} (htext : Spells text.toList n) (hlow : n < least) :
      SetsLimit name default least (some text) default
        [.warning s!"[ENV] {name}='{text}' below minimum {least}, using default {default}."]
  | given {text : String} {n : Int} (htext : Spells text.toList n) (hleast : least ≤ n) :
      SetsLimit name default least (some text) n []

/-- How a line begins that is logged of a variable. -/
def headsOf (name : String) : List String :=
  [s!"[ENV] Invalid {name}='", s!"[ENV] {name}='"]

/-- A line is about a variable. -/
def About (name : String) (line : LogLine) : Prop :=
  ∃ head ∈ headsOf name, head.toList <+: line.text.toList

instance (name : String) : DecidablePred (About name) := fun line =>
  inferInstanceAs (Decidable (∃ head ∈ headsOf name, head.toList <+: line.text.toList))

section Reading

variable {name : String} {default least n : Int} {raw : Option String} {lines : List LogLine}

theorem setsLimit_readInt (name : String) (default least : Int) (raw : Option String) :
    SetsLimit name default least raw (readInt name default (some least) raw).1
      (readInt name default (some least) raw).2 := by
  cases raw with
  | none => exact .unset
  | some text =>
    by_cases hne : text = ""
    · subst hne
      exact .empty
    · cases hparse : parseInt text with
      | error e =>
        have hnone : ∀ n, ¬ Spells text.toList n := by
          intro n htext
          rw [htext.parseInt_eq_ok] at hparse
          cases hparse
        simp only [readInt, nonEmpty?_of_ne hne, hparse]
        exact .malformed hne hnone
      | ok n =>
        have htext : Spells text.toList n := parseInt_eq_ok_iff.mp hparse
        by_cases hlow : n < least
        · simp only [readInt, nonEmpty?_of_ne hne, hparse, hlow, if_true]
          exact .tooLow htext hlow
        · simp only [readInt, nonEmpty?_of_ne hne, hparse, hlow, if_false]
          exact .given htext (by omega)

/-- A variable sets one limit, the one that is read from it. -/
theorem setsLimit_iff : SetsLimit name default least raw n lines ↔
    readInt name default (some least) raw = (n, lines) := by
  constructor
  · intro h
    have hne {text : String} {m : Int} (htext : Spells text.toList m) : text ≠ "" := by
      rintro rfl
      exact absurd htext.isBlankText_eq_false (by decide)
    cases h with
    | unset => rfl
    | empty => rfl
    | @malformed text hne hnone =>
      cases hparse : parseInt text with
      | error e => simp only [readInt, nonEmpty?_of_ne hne, hparse]
      | ok m => exact absurd (parseInt_eq_ok_iff.mp hparse) (hnone m)
    | tooLow htext hlow =>
      simp only [readInt, nonEmpty?_of_ne (hne htext), htext.parseInt_eq_ok, if_pos hlow]
    | given htext hleast =>
      have hlow : ¬ n < least := by omega
      simp only [readInt, nonEmpty?_of_ne (hne htext), htext.parseInt_eq_ok, if_neg hlow]
  · intro h
    have hread := setsLimit_readInt name default least raw
    rwa [h] at hread

/-- White space, a sign, an underscore and digits of another script are all part of an integer. -/
example : readInt "TX_PER_PAGE" 25 (some 1) (some " +١_0\n") = (10, []) := by decide +kernel

theorem SetsLimit.least_le (h : SetsLimit name default least raw n lines)
    (hdefault : least ≤ default) : least ≤ n := by
  cases h with
  | given _ hleast => exact hleast
  | _ => exact hdefault

theorem prefix_append_right {head s : String} (h : head.toList <+: s.toList) (t : String) :
    head.toList <+: (s ++ t).toList := by
  rw [String.toList_append]
  exact h.trans (List.prefix_append _ _)

theorem about_of_prefix {head : String} (hhead : head ∈ headsOf name) {line : LogLine}
    (h : head.toList <+: line.text.toList) : About name line :=
  ⟨head, hhead, h⟩

theorem SetsLimit.about (h : SetsLimit name default least raw n lines) :
    ∀ line ∈ lines, About name line := by
  cases h with
  | malformed _ _ =>
    intro line hline
    rw [List.mem_singleton.mp hline]
    refine about_of_prefix List.mem_cons_self ?_
    iterate 4 apply prefix_append_right
    exact List.prefix_rfl
  | tooLow _ _ =>
    intro line hline
    rw [List.mem_singleton.mp hline]
    refine about_of_prefix (List.mem_cons_of_mem _ List.mem_cons_self) ?_
    iterate 6 apply prefix_append_right
    exact List.prefix_rfl
  | _ => exact fun line hline => absurd hline List.not_mem_nil

theorem about_of_mem_readReal {default : Binary64} {line : LogLine}
    (h : line ∈ (readReal name default raw).2) : About name line := by
  unfold readReal at h
  split at h
  · exact absurd h List.not_mem_nil
  · split at h
    · exact absurd h List.not_mem_nil
    · rw [List.mem_singleton.mp h]
      refine about_of_prefix List.mem_cons_self ?_
      iterate 4 apply prefix_append_right
      exact List.prefix_rfl

end Reading

section Log

variable {name other : String} {lines : List LogLine}

/-- No line is about two variables, unless the beginning of one's lines begins the other's. -/
theorem not_about_of_about
    (hheads : ∀ a ∈ headsOf name, ∀ b ∈ headsOf other,
      ¬ a.toList <+: b.toList ∧ ¬ b.toList <+: a.toList)
    {line : LogLine} (h : About other line) : ¬ About name line := by
  rintro ⟨a, ha, hprefix⟩
  obtain ⟨b, hb, hprefix'⟩ := h
  rcases List.prefix_or_prefix_of_prefix hprefix hprefix' with hab | hba
  · exact (hheads a ha b hb).1 hab
  · exact (hheads a ha b hb).2 hba

theorem filter_about_self (h : ∀ line ∈ lines, About name line) :
    lines.filter (About name) = lines := by
  rw [List.filter_eq_self]
  intro line hline
  exact decide_eq_true (h line hline)

theorem filter_about_other
    (hheads : ∀ a ∈ headsOf name, ∀ b ∈ headsOf other,
      ¬ a.toList <+: b.toList ∧ ¬ b.toList <+: a.toList)
    (h : ∀ line ∈ lines, About other line) : lines.filter (About name) = [] := by
  rw [List.filter_eq_nil_iff]
  intro line hline
  rw [decide_eq_true_eq]
  exact not_about_of_about hheads (h line hline)

theorem log_ofVariables (env : Variables) : (ofVariables env).2 =
    (readInt "TX_PER_PAGE" 25 (some 1) (env.lookup "TX_PER_PAGE")).2 ++
      (readInt "MEMO_MAX_LENGTH" 256 (some 1) (env.lookup "MEMO_MAX_LENGTH")).2 ++
      (readReal "UPSTREAM_TIMEOUT" (.ofInt 30) (env.lookup "UPSTREAM_TIMEOUT")).2 := rfl

/-- The limits that an environment sets, one at the least, and what is logged of them: of each no
more than its own warning, and besides them nothing but what the timeout is refused with. -/
structure LimitsRead (env : Variables) (s : Settings) (log : List LogLine) : Prop where
  pageSize : SetsLimit "TX_PER_PAGE" 25 1 (env.lookup "TX_PER_PAGE") s.pageSize
    (log.filter (About "TX_PER_PAGE"))
  memoLength : SetsLimit "MEMO_MAX_LENGTH" 256 1 (env.lookup "MEMO_MAX_LENGTH") s.memoLength
    (log.filter (About "MEMO_MAX_LENGTH"))
  one_le_pageSize : 1 ≤ s.pageSize
  one_le_memoLength : 1 ≤ s.memoLength
  rest : ∀ line ∈ log, About "TX_PER_PAGE" line ∨ About "MEMO_MAX_LENGTH" line ∨
    About "UPSTREAM_TIMEOUT" line

theorem limitsRead_ofVariables (env : Variables) :
    LimitsRead env (ofVariables env).1 (ofVariables env).2 := by
  have hsize := setsLimit_readInt "TX_PER_PAGE" 25 1 (env.lookup "TX_PER_PAGE")
  have hlength := setsLimit_readInt "MEMO_MAX_LENGTH" 256 1 (env.lookup "MEMO_MAX_LENGTH")
  have htimeout : ∀ line ∈ (readReal "UPSTREAM_TIMEOUT" (.ofInt 30)
      (env.lookup "UPSTREAM_TIMEOUT")).2, About "UPSTREAM_TIMEOUT" line :=
    fun line hline => about_of_mem_readReal hline
  have hsizeLog : (ofVariables env).2.filter (About "TX_PER_PAGE") =
      (readInt "TX_PER_PAGE" 25 (some 1) (env.lookup "TX_PER_PAGE")).2 := by
    rw [log_ofVariables, List.filter_append, List.filter_append, filter_about_self hsize.about,
      filter_about_other (by decide) hlength.about, filter_about_other (by decide) htimeout,
      List.append_nil, List.append_nil]
  have hlengthLog : (ofVariables env).2.filter (About "MEMO_MAX_LENGTH") =
      (readInt "MEMO_MAX_LENGTH" 256 (some 1) (env.lookup "MEMO_MAX_LENGTH")).2 := by
    rw [log_ofVariables, List.filter_append, List.filter_append, filter_about_self hlength.about,
      filter_about_other (by decide) hsize.about, filter_about_other (by decide) htimeout,
      List.nil_append, List.append_nil]
  refine ⟨hsizeLog ▸ hsize, hlengthLog ▸ hlength, ?_, ?_, ?_⟩
  · exact hsize.least_le (by omega)
  · exact hlength.least_le (by omega)
  · intro line hline
    rw [log_ofVariables, List.mem_append, List.mem_append, or_assoc] at hline
    exact hline.imp (hsize.about line) (Or.imp (hlength.about line) (htimeout line))

end Log

end Settings

namespace Page

/-- What a page shows of the records that may be shown: as many as there are and as fit. -/
structure Fits (limit : Int) (rs : List Record) (eligible : Fin rs.length → Prop)
    [DecidablePred eligible] (docs : List Record) : Prop where
  size : (docs.length : Int) = min limit ((List.finRange rs.length).countP eligible)
  atMost : docs.length ≤ limit
  some : (∃ i, eligible i) → docs ≠ []

theorem fits_of_size {limit : Int} (hlimit : 1 ≤ limit) {rs : List Record}
    {eligible : Fin rs.length → Prop} [DecidablePred eligible] {docs : List Record}
    (hsize : (docs.length : Int) = min limit ((List.finRange rs.length).countP eligible)) :
    Fits limit rs eligible docs := by
  refine ⟨hsize, ?_, ?_⟩
  · omega
  · rintro ⟨i, hi⟩ hnil
    have hpos : 0 < (List.finRange rs.length).countP eligible :=
      List.countP_pos_iff.mpr ⟨i, List.mem_finRange i, decide_eq_true hi⟩
    rw [hnil, List.length_nil] at hsize
    omega

theorem fits_shown {limit : Int} (hlimit : 1 ≤ limit) (valid : Record → Bool)
    (token : Option String) (rs : List Record) (look : Fin rs.length → Record) :
    Fits limit rs (Eligible valid token rs) ((shown limit.toNat valid token rs).map look) := by
  apply fits_of_size hlimit
  rw [List.length_map, shown, length_head, List.countP_eq_length_filter]
  omega

theorem fits_ofAddress {limit : Int} (hlimit : 1 ≤ limit) (valid : Record → Bool)
    (token : Option String) (address : String) (rs : List Record) :
    Fits limit rs (Eligible valid token rs) (ofAddress limit valid token address rs).docs := by
  have hnat : limit = limit.toNat := by omega
  have hdocs := docs_ofAddress_eq_map limit.toNat valid token address rs
  rw [← hnat] at hdocs
  rw [hdocs]
  exact fits_shown hlimit valid token rs _

theorem fits_ofXpub {limit : Int} (hlimit : 1 ≤ limit) (valid : Record → Bool)
    (rs : List Record) :
    Fits limit rs (Eligible valid none rs) (ofXpub limit valid rs).docs := by
  have hnat : limit = limit.toNat := by omega
  have hdocs := docs_ofXpub_eq_map limit.toNat valid rs
  rw [← hnat] at hdocs
  rw [hdocs]
  exact fits_shown hlimit valid none rs _

end Page

namespace Settings

open Indexer

/-- Whatever the environment says, its limits are one at the least, and a page of the service that
starts with them is filled from the head of what it may show. -/
theorem limits_keep_pages_filled (env : Variables) : ∃ s log, ofVariables env = (s, log) ∧
    LimitsRead env s log ∧ ∃ app started, Http.App.start env s = .ok (app, started) ∧
      app.service.pageSize = s.pageSize ∧ app.service.memoLength = s.memoLength ∧ ∀ rs,
        (∀ address token, Page.Fits s.pageSize rs
          (Page.Eligible (Record.memoValid s.memoLength) token rs)
          (app.service.page (.address address token) rs).docs) ∧
        ∀ key, Page.Fits s.pageSize rs (Page.Eligible (Record.memoValid s.memoLength) none rs)
          (app.service.page (.xpub key) rs).docs := by
  have hlimits := limitsRead_ofVariables env
  obtain ⟨client, started, hstart⟩ := exists_start env (ofVariables env).1
  refine ⟨_, _, rfl, hlimits, _, started, hstart, rfl, rfl, ?_⟩
  intro rs
  constructor
  · intro address token
    exact Page.fits_ofAddress hlimits.one_le_pageSize _ token address rs
  · intro key
    exact Page.fits_ofXpub hlimits.one_le_pageSize _ rs

end Settings

end ChainHistory
