import ParcelPilot.Authorization
import ParcelPilot.DeprecatedEvidence
import ParcelPilot.Scanning
import ParcelPilot.Texts

namespace ParcelPilot

-- Two to eight ASCII letters, a hyphen and one to ten ASCII digits.
structure IdShape (token letters digits : List Char) : Prop where
  spelt : token = letters ++ '-' :: digits
  enoughLetters : 2 ≤ letters.length ∧ letters.length ≤ 8
  alpha : ∀ c ∈ letters, c.isAlpha = true
  enoughDigits : 1 ≤ digits.length ∧ digits.length ≤ 10
  numeric : ∀ c ∈ digits, c.isDigit = true

theorem ascii_of_isAlpha {c : Char} (alpha : c.isAlpha = true) : c.toNat < 128 := by
  rw [Pattern.alpha_codes] at alpha
  omega

theorem ascii_of_isDigit {c : Char} (digit : c.isDigit = true) : c.toNat < 128 := by
  rw [Pattern.digit_codes] at digit
  omega

theorem not_isDigit_of_isAlpha {c : Char} (alpha : c.isAlpha = true) : c.isDigit = false := by
  by_contra digit
  rw [Bool.not_eq_false,Pattern.digit_codes] at digit
  rw [Pattern.alpha_codes] at alpha
  omega

theorem toUpper_toUpper (c : Char) : c.toUpper.toUpper = c.toUpper := by
  by_cases ascii : c.toNat < 128
  · have each : ∀ n < 128, (Char.ofNat n).toUpper.toUpper = (Char.ofNat n).toUpper := by decide
    have here := each c.toNat ascii
    rwa [Char.ofNat_toNat] at here
  · have same : c.toUpper = c := by
      apply dif_neg
      intro lower
      have bound : c.toNat ≤ 122 := UInt32.le_iff_toNat_le.mp lower.2
      omega
    rw [same,same]

theorem upper_upper (token : String) : upper (upper token) = upper token := by
  unfold upper
  rw [String.toList_ofList,List.map_map]
  congr 2
  funext c
  exact toUpper_toUpper c

section Tokens

variable [Host] {before text left right token letters digits : List Char} {stop : Pattern.Cursor}
  {c : Char}

-- Every digit of any script is a word character.
def DigitsAreWords : Prop := ∀ c : Char, Host.isDigit c = true → Host.isWord c = true

theorem letter_isWord (alpha : c.isAlpha = true) : Host.isWord c = true := by
  rw [Host.isWord_ascii c (ascii_of_isAlpha alpha)]
  simp [Char.isAlphanum,alpha]

theorem letter_not_digit (alpha : c.isAlpha = true) : Host.isDigit c = false := by
  rw [Host.isDigit_ascii c (ascii_of_isAlpha alpha)]
  exact not_isDigit_of_isAlpha alpha

theorem mem_ends_idToken : stop ∈ Pattern.ends Host.isWord idToken ⟨before,text⟩ ↔
    Pattern.wordAt Host.isWord before ≠ Pattern.wordAt Host.isWord text ∧
      ∃ letters digits rest, text = letters ++ '-' :: (digits ++ rest) ∧
        (2 ≤ letters.length ∧ letters.length ≤ 8 ∧ ∀ c ∈ letters, c.isAlpha = true) ∧
        (1 ≤ digits.length ∧ digits.length ≤ 10 ∧ ∀ c ∈ digits, Host.isDigit c = true) ∧
        stop = ⟨digits.reverse ++ '-' :: (letters.reverse ++ before),rest⟩ ∧
        Pattern.wordAt Host.isWord stop.before ≠ Pattern.wordAt Host.isWord rest := by
  simp only [idToken,Pattern.sequence,Pattern.mem_ends_seq,Pattern.mem_ends_one,
    Pattern.mem_ends_many,Pattern.mem_ends_boundary,decide_eq_true_eq]
  constructor
  · intro passed
    obtain ⟨_,⟨starts,rfl⟩,_,⟨letters,_,first,few,most,alpha,rfl⟩,_,⟨_,_,hyphen,rfl,rfl⟩,_,
      ⟨digits,rest,second,some_,bound,numeric,rfl⟩,closes,rfl⟩ := passed
    dsimp only at starts first hyphen second closes
    subst hyphen
    subst second
    exact ⟨starts,letters,digits,rest,first,⟨few,most 8 rfl,alpha⟩,⟨some_,bound 10 rfl,numeric⟩,rfl,
      closes⟩
  · intro passed
    obtain ⟨starts,letters,digits,rest,rfl,⟨few,most,alpha⟩,⟨some_,bound,numeric⟩,rfl,closes⟩ := passed
    exact ⟨_,⟨starts,rfl⟩,_,⟨letters,_,rfl,few,by simpa using most,alpha,rfl⟩,_,⟨_,_,rfl,rfl,rfl⟩,_,
      ⟨digits,rest,rfl,some_,by simpa using bound,numeric,rfl⟩,closes,rfl⟩

theorem wordAt_run {run rest : List Char} (some_ : run ≠ []) (all : ∀ c ∈ run, Host.isWord c = true) :
    Pattern.wordAt Host.isWord (run ++ rest) = true := by
  cases run with
  | nil => exact absurd rfl some_
  | cons c more => exact all c (by simp)

theorem wordAt_run_reverse {run rest : List Char} (some_ : run ≠ [])
    (all : ∀ c ∈ run, Host.isWord c = true) :
    Pattern.wordAt Host.isWord (run.reverse ++ rest) = true :=
  wordAt_run (by simpa using some_) fun c member => all c (List.mem_reverse.mp member)

omit [Host] in
theorem IdShape.no_hyphen {run : List Char} (alpha : ∀ c ∈ run, c.isAlpha = true) : '-' ∉ run :=
  fun member => absurd (alpha _ member) (by decide)

theorem IdShape.digital (shape : IdShape token letters digits) :
    ∀ c ∈ digits, Host.isDigit c = true := by
  intro c member
  rw [Host.isDigit_ascii c (ascii_of_isDigit (shape.numeric c member))]
  exact shape.numeric c member

-- However a token that stands alone is read, it is read whole: a digit run that
-- is shorter stops before a word character, a longer one takes in the character
-- after the token.
theorem idToken_only (words : DigitsAreWords) (shape : IdShape token letters digits)
    (rightEdge : Pattern.wordAt Host.isWord right = false) :
    ∀ stop ∈ Pattern.ends Host.isWord idToken ⟨before,token ++ right⟩,
      stop = ⟨token.reverse ++ before,right⟩ := by
  intro stop passed
  obtain ⟨_,others,more,rest,same,⟨_,_,alpha⟩,⟨few,_,digital⟩,rfl,closes⟩ :=
    mem_ends_idToken.mp passed
  have split_ : token ++ right = letters ++ '-' :: (digits ++ right) := by simp [shape.spelt]
  have stops : (⟨token.reverse ++ before,right⟩ : Pattern.Cursor) =
      ⟨digits.reverse ++ '-' :: (letters.reverse ++ before),right⟩ := by simp [shape.spelt]
  rw [split_] at same
  obtain ⟨rfl,tail⟩ :=
    (Texts.cut_list (IdShape.no_hyphen shape.alpha) (IdShape.no_hyphen alpha)).mp same
  rcases List.append_eq_append_iff.mp tail with ⟨extra,rfl,over_⟩ | ⟨extra,rfl,under⟩
  · cases extra with
    | nil =>
        rw [stops]
        simp_all
    | cons c extra =>
        rw [over_] at rightEdge
        have word := words c (digital c (by simp))
        simp [Pattern.wordAt,word] at rightEdge
  · cases extra with
    | nil =>
        rw [stops]
        simp_all
    | cons c extra =>
        have word := words c (shape.digital c (by simp))
        have before_ := @wordAt_run_reverse _ _ ('-' :: (letters.reverse ++ before))
          (List.ne_nil_of_length_pos few) fun d member => words d (digital d member)
        rw [under] at closes
        exact absurd (before_.trans (Eq.symm word)) closes

theorem idToken_here (words : DigitsAreWords) (shape : IdShape token letters digits)
    (leftEdge : Pattern.wordAt Host.isWord before = false)
    (rightEdge : Pattern.wordAt Host.isWord right = false) :
    Pattern.matchHere Host.isWord idToken ⟨before,token ++ right⟩ =
      some ⟨token.reverse ++ before,right⟩ := by
  have someLetters : letters ≠ [] := List.ne_nil_of_length_pos (by have := shape.enoughLetters; omega)
  have someDigits : digits ≠ [] := List.ne_nil_of_length_pos (by have := shape.enoughDigits; omega)
  have split_ : token ++ right = letters ++ '-' :: (digits ++ right) := by simp [shape.spelt]
  have stops : (⟨token.reverse ++ before,right⟩ : Pattern.Cursor) =
      ⟨digits.reverse ++ '-' :: (letters.reverse ++ before),right⟩ := by simp [shape.spelt]
  have starts : Pattern.wordAt Host.isWord (token ++ right) = true := by
    rw [split_]
    exact wordAt_run someLetters fun c member => letter_isWord (shape.alpha c member)
  have member : ⟨token.reverse ++ before,right⟩ ∈ Pattern.ends Host.isWord idToken
      ⟨before,token ++ right⟩ := by
    refine mem_ends_idToken.mpr ⟨?_,letters,digits,right,split_,⟨shape.enoughLetters.1,
      shape.enoughLetters.2,shape.alpha⟩,⟨shape.enoughDigits.1,shape.enoughDigits.2,shape.digital⟩,
      stops,?_⟩
    · rw [leftEdge,starts]
      decide
    · rw [rightEdge,stops,
        wordAt_run_reverse someDigits fun c member => words c (shape.digital c member)]
      decide
  refine (Pattern.matchHere_unique ?_).mpr member
  intro one first two second
  rw [idToken_only words shape rightEdge one first,idToken_only words shape rightEdge two second]

-- An earlier match does not reach into a token that stands alone: it would have
-- to go on behind its hyphen with the token's first letter.
theorem idToken_clear (shape : IdShape token letters digits)
    {two : List Char} (nonempty : two ≠ [])
    (edge : Pattern.wordAt Host.isWord two.reverse = false)
    (found : Pattern.matchHere Host.isWord idToken ⟨before,two ++ (token ++ right)⟩ = some stop) :
    (token ++ right).length ≤ stop.after.length := by
  have passed := List.mem_of_head? found
  obtain ⟨_,others,more,rest,same,⟨_,_,alpha⟩,⟨_,_,digital⟩,rfl,_⟩ := mem_ends_idToken.mp passed
  have whole : two ++ (token ++ right) = (others ++ '-' :: more) ++ rest := by rw [same]; simp
  rcases List.append_eq_append_iff.mp whole with ⟨extra,inner,tail⟩ | ⟨extra,_,tail⟩
  · cases extra with
    | nil => simp [tail]
    | cons c extra =>
        obtain ⟨first,letters,rfl⟩ := List.exists_cons_of_length_pos
          (show 0 < letters.length by have := shape.enoughLetters; omega)
        have letter : first.isAlpha = true := shape.alpha first (by simp)
        have starts : c = first := by
          rw [shape.spelt] at tail
          simp only [List.cons_append] at tail
          exact (List.cons.inj tail).1.symm
        subst starts
        have within : ¬ ∀ d ∈ two, d.isAlpha = true := by
          intro all
          have word : Pattern.wordAt Host.isWord (two.reverse ++ []) = true :=
            wordAt_run_reverse nonempty fun d member => letter_isWord (all d member)
          rw [List.append_nil,edge] at word
          cases word
        rcases List.append_eq_append_iff.mp inner with ⟨gap,runs,behind⟩ | ⟨gap,runs,_⟩
        · cases gap with
          | nil =>
              rw [List.append_nil] at runs
              exact absurd (fun d member => alpha d (by rwa [← runs])) within
          | cons d gap =>
              have reached : c ∈ more := by
                rw [(List.cons.inj behind).2]
                simp
              have digit := digital c reached
              rw [letter_not_digit letter] at digit
              cases digit
        · exact absurd (fun d member => alpha d (by rw [runs]; simp [member])) within
  · rw [tail]
    simp

def Delimited (text token : List Char) : Prop :=
  ∃ left right, text = left ++ (token ++ right) ∧
    Pattern.wordAt Host.isWord left.reverse = false ∧ Pattern.wordAt Host.isWord right = false

theorem delimited_mentioned (words : DigitsAreWords) {question token : String}
    (shape : IdShape token.toList letters digits) (stands : Delimited question.toList token.toList) :
    upper token ∈ mentions question := by
  obtain ⟨left,right,split_,leftEdge,rightEdge⟩ := stands
  have matched := @idToken_here _ (left.reverse ++ []) right _ _ _ words shape (by simpa using leftEdge)
    rightEdge
  have nonempty : token.toList ++ right ≠ [] := by simp [shape.spelt]
  have reported := Pattern.findFrom_complete split_ nonempty (Nat.zero_le _) matched (by
    intro one two earlier parts some_ found
    refine idToken_clear shape some_ ?_ found
    rw [parts,List.reverse_append] at leftEdge
    cases last : two.reverse with
    | nil => simp at last; exact absurd last some_
    | cons c more =>
        rw [last] at leftEdge
        exact leftEdge)
  have whole : (token.toList ++ right).take ((token.toList ++ right).length - right.length) =
      token.toList := by simp
  have listed : token ∈ Pattern.findAll Host.isWord idToken question :=
    List.mem_map.mpr ⟨_,reported,by dsimp only; rw [whole,String.ofList_toList]⟩
  obtain ⟨kept,first,same⟩ := Py.firstOccurrences_covers (id : String → String)
    List.not_mem_nil (List.mem_map_of_mem (f := upper) listed)
  rw [show upper token = kept from same.symm]
  exact first

theorem mentions_upper {question mention : String} (mentioned : mention ∈ mentions question) :
    upper mention = mention := by
  obtain ⟨token,_,rfl⟩ := List.mem_map.mp (Py.firstOccurrences_mem mentioned)
  exact upper_upper token

end Tokens

section Found

variable [Host] {db : Db} {auth : AuthContext} {clock : SnapshotClock} {question entityId : String}
  {letters digits : List Char}

def Outside (db : Db) (auth : AuthContext) (entityId : String) : Prop :=
  (∃ row, db.orders.row entityId = some row ∧ auth.allowsAccount row.accountId = false) ∨
  (∃ row, db.tickets.row entityId = some row ∧ auth.allowsAccount row.accountId = false) ∨
  (∃ row, db.accounts.row entityId = some row ∧ auth.allowsAccount row.accountId = false)

def FoundIn (db : Db) (auth : AuthContext) (clock : SnapshotClock) (question entityId : String) : Prop :=
  ∃ entities, (resolveEntities question auth clock).on db = .ok entities ∧
    (entityId ∈ entities.orderIds ∨ entityId ∈ entities.ticketIds ∨ entityId ∈ entities.accountIds)

omit [Host] in
theorem kindSeen_visible {kind : EntityKind} (access : Accessible db auth kind entityId)
    (alone : ¬ Outside db auth entityId) : kindSeen db auth entityId ≠ none := by
  unfold Outside at alone
  simp only [not_or,not_exists,not_and,Bool.not_eq_false] at alone
  obtain ⟨orders,tickets,accounts⟩ := alone
  unfold kindSeen
  cases order : db.orders.row entityId with
  | some row => simp [orders row order]
  | none =>
      cases ticket : db.tickets.row entityId with
      | some row => simp [tickets row ticket]
      | none =>
          cases account : db.accounts.row entityId with
          | some row =>
              have allowed := accounts row account
              rw [Table.row_key account] at allowed
              simp [allowed]
          | none => cases kind <;> simp [Accessible,order,ticket,account] at access

-- An id is found as it is written, or as the one account that is named.
theorem visible_id_found_iff (words : DigitsAreWords) (auth : AuthContext) (clock : SnapshotClock)
    (shape : IdShape entityId.toList letters digits)
    (stands : Delimited question.toList entityId.toList)
    (access : ∃ kind, Accessible db auth kind entityId) (alone : ¬ Outside db auth entityId) :
    FoundIn db auth clock question entityId ↔ upper entityId = entityId ∨
      (∀ mention ∈ mentions question, kindSeen db auth mention = none) ∧
        namedAccounts db question auth = [entityId] := by
  obtain ⟨kind,access⟩ := access
  have visible := kindSeen_visible access alone
  have mentioned := delimited_mentioned words shape stands
  unfold FoundIn
  simp only [resolveEntities_on,Except.ok.injEq,exists_eq_left']
  rw [entitiesOf_orderIds,entitiesOf_ticketIds]
  by_cases missing : NoneResolved
      ((mentions question).map fun mention => (kindSeen db auth mention,mention))
  · have unseen := noneResolved_iff.mp missing
    have accounts := (@entitiesOf_none _ (namedAccounts db question auth) missing).1
    rw [accounts,missing .order,missing .ticket]
    constructor
    · intro found
      right
      refine ⟨unseen,?_⟩
      rcases found with order | ticket | account
      · cases order
      · cases ticket
      · split at account
        · rename_i single
          obtain ⟨named,only⟩ := List.length_eq_one_iff.mp single
          rw [only,List.mem_singleton] at account
          rw [only,account]
        · cases account
    · intro condition
      rcases condition with written | ⟨_,named⟩
      · rw [written] at mentioned
        exact absurd (unseen entityId mentioned) visible
      · simp [named]
  · have accounts := (@entitiesOf_some _ (namedAccounts db question auth) missing).1
    rw [accounts]
    simp only [mem_kinds]
    constructor
    · intro found
      have listed : entityId ∈ mentions question := by
        rcases found with order | ticket | account
        · exact order.1
        · exact ticket.1
        · exact account.1
      exact .inl (mentions_upper listed)
    · intro condition
      rcases condition with written | ⟨unseen,_⟩
      · rw [written] at mentioned
        rcases kinds : kindSeen db auth entityId with _ | _ | _ | _
        · exact absurd kinds visible
        · exact .inl ⟨mentioned,rfl⟩
        · exact .inr (.inl ⟨mentioned,rfl⟩)
        · exact .inr (.inr ⟨mentioned,rfl⟩)
      · exact absurd (noneResolved_iff.mpr unseen) missing

end Found

-- A deployment with lower-case ids
def lowerDb : Db := {Db.empty with orders := ⟨[deliveredOrder "ab-1"],List.nodup_singleton _⟩}

theorem lower_id_missed : let _ := asciiHost [] []
    IdShape "ab-1".toList ['a','b'] ['1'] ∧
      Delimited "Where is ab-1?".toList "ab-1".toList ∧
      (∃ kind, Accessible lowerDb adminRequest.auth kind "ab-1") ∧
      ¬ Outside lowerDb adminRequest.auth "ab-1" ∧
      ¬ FoundIn lowerDb adminRequest.auth adminRequest.clock "Where is ab-1?" "ab-1" := by
  intro _
  refine ⟨⟨by decide,by decide,List.all_eq_true.mp rfl,by decide,List.all_eq_true.mp rfl⟩,?_,
    ⟨.order,_,rfl,rfl⟩,?_,?_⟩
  · exact ⟨"Where is ".toList,['?'],by decide,by decide,by decide⟩
  · intro hidden
    rcases hidden with ⟨row,_,refused⟩ | ⟨row,_,refused⟩ | ⟨row,_,refused⟩ <;> cases refused
  · intro found
    obtain ⟨entities,resolved,filed⟩ := found
    rw [resolveEntities_on] at resolved
    cases Except.ok.inj resolved
    exact absurd filed (by decide +kernel)

theorem upper_id_found : let _ := asciiHost [] []
    FoundIn deliveredDb adminRequest.auth adminRequest.clock "Where is AB-1?" "AB-1" := by
  intro _
  have words : DigitsAreWords := by
    intro c digit
    change (c.isAlphanum || c = '_') = true
    simp [Char.isAlphanum,show c.isDigit = true from digit]
  have alone : ¬ Outside deliveredDb adminRequest.auth "AB-1" := by
    intro hidden
    rcases hidden with ⟨row,_,refused⟩ | ⟨row,_,refused⟩ | ⟨row,_,refused⟩ <;> cases refused
  have shape : IdShape "AB-1".toList ['A','B'] ['1'] :=
    ⟨by decide,by decide,List.all_eq_true.mp rfl,by decide,List.all_eq_true.mp rfl⟩
  exact (visible_id_found_iff words adminRequest.auth adminRequest.clock shape
    ⟨"Where is ".toList,['?'],by decide,by decide,by decide⟩ ⟨.order,_,rfl,rfl⟩ alone).mpr
    (.inl (by decide))

end ParcelPilot
