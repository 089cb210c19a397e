import BlockSearch.Proofs.Sql.Tally
import BlockSearch.Proofs.Text.Folding
import BlockSearch.Search.Statement

/-!
# Counts of statements

The matches of a statement are counted by a second one, which is the first one with the selection of
all columns replaced. It keeps the limit. The limit of the first one takes rows off those that it
selects; the limit of the second one is taken off its single row, which a positive offset leaves out.
So all matches are counted unless there is an offset, or the second statement cannot be run. This
holds of every database that limits and counts rows in this way, whatever the conditions and orders
that it reads. The one that is read and run here does: there the second statement can be run unless
an order is by the number of a column that it does not have.
-/

namespace BlockSearch

/-! ## Texts -/

namespace Statement

theorem countingFrom_eq_drop
    (skipped : Nat)
    (text : List Char) :
    countingFrom skipped text = countingFrom 0 (text.drop skipped) := by
  induction skipped generalizing text with
  | zero => rfl
  | succ skipped inductionHypothesis =>
      cases text with
      | nil => rfl
      | cons c rest =>
          rw [countingFrom, inductionHypothesis, List.drop_succ_cons]

/-- Nothing is replaced where nothing selects all columns. -/
theorem countingFrom_eq_self
    {text : List Char}
    (nowhere : selectsAllSomewhere text = false) :
    countingFrom 0 text = text := by
  induction text with
  | nil => rfl
  | cons c rest inductionHypothesis =>
      rw [selectsAllSomewhere, Bool.or_eq_false_iff] at nowhere
      rw [countingFrom, nowhere.1, if_neg Bool.false_ne_true, inductionHypothesis nowhere.2]

/-- The selection of all columns is replaced in front of a text that selects them nowhere. -/
theorem counting?_of_selection
    {select rest : List Char}
    (selection : select.map Char.toLower = selectAll)
    (once : selectsAllSomewhere rest = false) :
    counting? (select ++ rest) = some (selectCounts ++ rest) := by
  have size : select.length = selectAll.length := by
    rw [← selection, List.length_map]
  have begins : selectsAll ((select ++ rest).take selectAll.length) = true := by
    rw [← size, List.take_left, selectsAll, selection, List.isPrefixOf_iff_prefix]
  obtain ⟨c, others, rfl⟩ := List.exists_cons_of_length_pos (size ▸ (by decide : 0 < selectAll.length))
  have behind : (others ++ rest).drop (selectAll.length - 1) = rest := by
    rw [← size, List.length_cons, Nat.add_sub_cancel, List.drop_left]
  rw [List.cons_append] at begins ⊢
  rw [counting?, selectsAllSomewhere, begins, Bool.true_or, if_pos rfl, countingFrom, if_pos begins,
    countingFrom_eq_drop, behind, countingFrom_eq_self once]

/-- The selection of all columns is a word in any case, and a star between two blanks. -/
theorem exists_word_of_selection
    {select : List Char}
    (selection : select.map Char.toLower = selectAll) :
    ∃ word, select = word ++ [' ', '*', ' '] ∧ word.map Char.toLower = "select".toList := by
  have whole : select.map Char.toLower = "select".toList ++ [' ', '*', ' '] := selection
  obtain ⟨word, star, rfl, letters, blanks⟩ := List.map_eq_append_iff.1 whole
  simp only [List.map_eq_cons_iff, List.map_eq_nil_iff] at blanks
  obtain ⟨a, _, rfl, blank, b, _, rfl, middle, c, _, rfl, last, rfl⟩ := blanks
  obtain rfl := Text.eq_of_toLower_eq blank (by decide)
  obtain rfl := Text.eq_of_toLower_eq middle (by decide)
  obtain rfl := Text.eq_of_toLower_eq last (by decide)
  exact ⟨word, rfl, letters⟩

end Statement

/-! ## Tokens -/

namespace Sql

/-- A text is read up to its first null character. -/
theorem Prepared.read?_beforeNull
    (text : List Char) :
    read? (Text.beforeNull text) = read? text := by
  rw [read?, read?, Token.ofText?, Token.ofText?,
    Text.beforeNull_eq_self (Text.null_not_mem_beforeNull text)]

namespace Token

/-- The letters of a word in any case are letters. -/
theorem isAlpha_of_map_toLower
    {word : List Char}
    {text : String}
    (letters : word.map Char.toLower = text.toList)
    (plain : text.toList.all Char.isAlpha = true) :
    ∀ c ∈ word, c.isAlpha = true := by
  intro c member
  rw [List.all_eq_true] at plain
  refine Text.isAlpha_of_isAlpha_toLower (plain _ ?_)
  rw [← letters]
  exact List.mem_map_of_mem member

/-- The tokens of a text with a word and a star in front are these and those behind the star. -/
theorem exists_scans_of_ofText?
    {word rest : List Char}
    {tokens : List Token}
    (letters : ∀ c ∈ word, c.isAlpha = true)
    (anyLetter : word ≠ [])
    (spelled : ofText? (word ++ ' ' :: '*' :: ' ' :: rest) = some tokens) :
    ∃ more, tokens = .word (String.ofList word) :: .sign "*" :: more ∧
      Scans (' ' :: Text.beforeNull rest) more := by
  have noNull : '\x00' ∉ word ++ [' ', '*', ' '] := by
    intro member
    rcases List.mem_append.1 member with inside | behind
    · exact absurd (letters _ inside) (by decide)
    · simp at behind
  have inside : ∀ c ∈ word, isNameChar c = true := by
    intro c member
    simp [isNameChar, isNameStart, letters c member]
  have behindNoNull : '\x00' ∉ ' ' :: Text.beforeNull rest := by
    rintro (_ | ⟨_, member⟩)
    exact Text.null_not_mem_beforeNull rest member
  have cut : Text.beforeNull (word ++ ' ' :: '*' :: ' ' :: rest) =
      word ++ ' ' :: '*' :: ' ' :: Text.beforeNull rest := by
    have joined := Text.beforeNull_append noNull rest
    simpa using joined
  obtain ⟨c, others, rfl⟩ := List.exists_cons_of_ne_nil anyLetter
  have letter := letters c List.mem_cons_self
  have first := @next?_word c others (' ' :: '*' :: ' ' :: Text.beforeNull rest) letter
    (fun d member => inside d (List.mem_cons_of_mem _ member)) (apart_blank _)
  -- Every token takes some fuel; what is left is enough for what is behind the star.
  rw [List.cons_append] at first
  rw [ofText?, cut, List.cons_append, scan?_token (isFront_of_isAlpha letter) first] at spelled
  obtain ⟨behind, found, rfl⟩ := Option.map_eq_some_iff.1 spelled
  simp only [List.length_cons, List.length_append] at found
  rw [← Nat.add_assoc, scan?_blank, scan?_token (isFront_of_isSign (c := '*') rfl) (next?_sign rfl _)]
    at found
  obtain ⟨more, last, rfl⟩ := Option.map_eq_some_iff.1 found
  refine ⟨more, rfl, scans_of_scan? last ?_ behindNoNull⟩
  rw [List.length_cons]
  omega

/-- What is written for the counts stands in front of the clauses. -/
theorem Scans.selectCounts
    {rest : List Char}
    {tokens : List Token}
    (scans : Scans (' ' :: rest) tokens) :
    Scans (Statement.selectCounts ++ rest) (.word "SELECT" :: (Reader.tallyTokens ++ tokens)) := by
  have names := ((scans.word "docs" (by decide) (apart_blank _)).words ["AS"] (by decide)).blank
  have document := (names.sign (c := ')') (by decide)).word "root_id" (by decide) (apart_close _)
  have documents := ((document.words ["DISTINCT"] (by decide)).sign (c := '(') (by decide)).word
    "COUNT" (by decide) (apart_open _)
  have matching := ((documents.blank.sign (c := ',') (by decide)).word "matches" (by decide)
    (apart_comma _)).words ["AS"] (by decide)
  have block := (matching.blank.sign (c := ')') (by decide)).word "id" (by decide) (apart_close _)
  have blocks := (block.sign (c := '(') (by decide)).word "COUNT" (by decide) (apart_open _)
  have whole := blocks.words ["SELECT"] (by decide)
  change Scans ("SELECT COUNT(id) AS matches, COUNT(DISTINCT root_id) AS docs ".toList ++ rest) _
  simpa [Reader.tallyTokens] using whole

end Token

/-- Where a word and a star are replaced by the counts, the clauses behind them are read again. -/
theorem Prepared.read?_selectCounts
    {word rest : List Char}
    (letters : word.map Char.toLower = "select".toList)
    {tail : Tail}
    (read : read? (word ++ ' ' :: '*' :: ' ' :: rest) = some ⟨tail.select false [.all], 0⟩)
    {name : String}
    {label : Option String}
    (table : tail.source = .table name label) :
    read? (Statement.selectCounts ++ rest) = some ⟨tail.select false Reader.tallyItems, 0⟩ := by
  have anyLetter : word ≠ [] := by
    rintro rfl
    cases letters
  obtain ⟨tokens, spelled, closed, selected⟩ := exists_tokens_of_read? read
  obtain ⟨more, rfl, scans⟩ :=
    Token.exists_scans_of_ofText? (Token.isAlpha_of_map_toLower letters (by decide)) anyLetter spelled
  have keyword : Reader.isKeyword (String.ofList word) "select" = true := by
    rw [Reader.isKeyword, Reader.lowered, String.toList_ofList, letters]
    rfl
  have clauses := Reader.tail_of_selection keyword selected
  have cut : Text.beforeNull (Statement.selectCounts ++ rest) =
      Statement.selectCounts ++ Text.beforeNull rest :=
    Text.beforeNull_append (by decide) rest
  have numbered : Numbered (.word "SELECT" :: (Reader.tallyTokens ++ more)) 0 := by
    have none (number : Option Nat) : Token.parameter number ∉
        .word "SELECT" :: (Reader.tallyTokens ++ more) := by
      have behind : Token.parameter number ∉ more := fun member =>
        closed number (List.mem_cons_of_mem _ (List.mem_cons_of_mem _ member))
      simpa [Reader.tallyTokens] using behind
    refine ⟨none Option.none, fun number => ⟨fun member => absurd member (none _), fun bounds => ?_⟩⟩
    omega
  rw [← read?_beforeNull, cut]
  refine read?_of_scans scans.selectCounts rfl isFront_select numbered fun fuel enough => ?_
  have counts : Reader.tallyTokens.length = 14 := rfl
  rw [List.length_cons, List.length_append, counts] at enough
  obtain ⟨spare, rfl⟩ : ∃ spare, fuel = spare + 33 := ⟨fuel - 33, by omega⟩
  refine Reader.selection_tallyTokens clauses table ?_
  simp only [List.length_cons]
  omega

end Sql

/-! ## Databases -/

namespace Sql

/--
A database limits and counts the rows of a statement on the records. The statement is the selection
of all columns with some clauses behind and an ending, which is a limit.
-/
structure Database.Serves
    (database : Database)
    (select clauses ending : List Char)
    (count skip : Int) : Prop where
  /-- Without the ending the rows are those of records. -/
  stored : ∀ whole, database.answer? (String.ofList (select ++ clauses)) [] = some whole →
    whole.IsStored
  /-- The ending leaves some of the rows in their order, which the limit may choose. -/
  leaves : ∀ whole limited,
    database.answer? (String.ofList (select ++ clauses)) [] = some whole →
    database.answer? (String.ofList (select ++ (clauses ++ ending))) [] = some limited →
      limited.names = whole.names ∧
        ∃ rows, rows.Perm whole.rows ∧ limited.rows = window count skip rows
  /-- Without the ending the two counts are those of the values that are not null. -/
  tallies : ∀ whole tally,
    database.answer? (String.ofList (select ++ clauses)) [] = some whole →
    database.answer? (String.ofList (Statement.selectCounts ++ clauses)) [] = some tally →
      tally.rows = [[.integer (countValues false (whole.values "id")),
        .integer (countValues true (whole.values "root_id"))]]
  /-- The ending is taken off the rows of the counts, and none is there before all are counted. -/
  leavesCounts : ∀ limited, count ≠ 0 →
    database.answer? (String.ofList (Statement.selectCounts ++ (clauses ++ ending))) [] =
        some limited →
      ∃ tally,
        database.answer? (String.ofList (Statement.selectCounts ++ clauses)) [] = some tally ∧
          limited.rows = window count skip tally.rows

end Sql

namespace Found

/--
The records that a statement finds are those that its limit leaves of all that match. All of these
and their documents are counted if the statement that counts can be run and no record is to be
skipped; otherwise nothing is counted.
-/
theorem byStatementOn_matching
    {database : Sql.Database}
    {limit : Nat}
    {query select clauses ending : List Char}
    (written : Statement.withLimit limit (Query.removeInvisible query) =
      select ++ (clauses ++ ending))
    (selection : select.map Char.toLower = Statement.selectAll)
    (once : Statement.selectsAllSomewhere (clauses ++ ending) = false)
    {count skip : Int}
    (serves : database.Serves select clauses ending count skip)
    {matching : List Record}
    (matched : database.records? (String.ofList (select ++ clauses)) [] = some matching)
    {found : Found}
    (answered : byStatementOn database limit query = .ok found)
    (filled : found.records ≠ []) :
    (∃ ordered, ordered.Perm matching ∧ found.records = Sql.window count skip ordered) ∧
      found.records.length ≤ matching.length ∧
      (found.blocks, found.documents) =
        if (database.answer? (String.ofList (Statement.selectCounts ++ (clauses ++ ending)))
            []).isSome ∧ skip ≤ 0 then
          (matching.length, (distinct (matching.map Record.rootId)).length)
        else (0, 0) := by
  obtain ⟨whole, wholeAnswer, rfl⟩ := Option.map_eq_some_iff.1 matched
  rw [byStatementOn, written, Statement.counting?_of_selection selection once] at answered
  dsimp only at answered
  split at answered
  · cases answered
  · cases answered
    exact absurd rfl filled
  · rename_i records some selected
    obtain ⟨limited, limitedAnswer, rfl⟩ := Option.map_eq_some_iff.1 selected
    cases answered
    obtain ⟨names, rows, perm, left⟩ := serves.leaves whole limited wholeAnswer limitedAnswer
    have shown : limited.records =
        Sql.window count skip (rows.map (Sql.toRecord whole.names)) := by
      rw [Sql.Answer.records, names, left, Sql.map_window]
    have ordered : (rows.map (Sql.toRecord whole.names)).Perm whole.records := perm.map _
    have positive : count ≠ 0 := by
      rintro rfl
      refine filled ?_
      rw [shown, Sql.window, if_neg (by decide), Int.toNat_zero, List.take_zero]
    refine ⟨⟨_, ordered, shown⟩, ?_, ?_⟩
    · rw [shown, ← ordered.length_eq]
      exact Sql.length_window_le count skip _
    · rw [countsOrZero, Sql.Database.counts?]
      cases counted : database.answer?
        (String.ofList (Statement.selectCounts ++ (clauses ++ ending))) [] with
      | none => rfl
      | some row =>
          obtain ⟨tally, tallied, taken⟩ := serves.leavesCounts row positive counted
          obtain ⟨blocks, documents⟩ := (serves.stored whole wholeAnswer).countValues
          rw [serves.tallies whole tally wholeAnswer tallied, blocks, documents,
            Sql.window_singleton positive] at taken
          rw [Option.bind_eq_bind, Option.bind_some, taken]
          by_cases skipped : skip ≤ 0
          · have size : whole.records.length = whole.rows.length := List.length_map _
            rw [if_pos skipped, if_pos ⟨rfl, skipped⟩, size]
            rfl
          · rw [if_neg skipped, if_neg fun both => skipped both.2]
            rfl

end Found

/-! ## Statements on the records of the store -/

namespace Statement

/--
A statement selects all columns of the records and nothing else does so, some clauses are behind, and
what is written behind these is read as their limit.
-/
structure SelectsRecords
    (select clauses ending : List Char)
    (tail : Sql.Tail) : Prop where
  /-- It begins with all columns. -/
  selection : select.map Char.toLower = selectAll
  /-- The clauses are read with the limit. -/
  limited : Sql.Prepared.read? (select ++ (clauses ++ ending)) = some ⟨tail.select false [.all], 0⟩
  /-- They are read without the limit. -/
  unlimited : Sql.Prepared.read? (select ++ clauses) =
    some ⟨tail.unlimited.select false [.all], 0⟩
  /-- They are clauses on the records. -/
  onRecords : ∃ label, tail.IsOnBlocks label

section

variable
  {select clauses ending : List Char}
  {tail : Sql.Tail}
  {store : Store}

/-- Where the counts are selected instead the same clauses are read. -/
theorem SelectsRecords.read?_counts
    (selects : SelectsRecords select clauses ending tail) :
    Sql.Prepared.read? (selectCounts ++ (clauses ++ ending)) =
        some ⟨tail.select false Sql.Reader.tallyItems, 0⟩ ∧
      Sql.Prepared.read? (selectCounts ++ clauses) =
        some ⟨tail.unlimited.select false Sql.Reader.tallyItems, 0⟩ := by
  obtain ⟨word, rfl, letters⟩ := exists_word_of_selection selects.selection
  obtain ⟨label, name, given, table, -⟩ := selects.onRecords
  have limited := selects.limited
  have unlimited := selects.unlimited
  rw [List.append_assoc] at limited unlimited
  exact ⟨Sql.Prepared.read?_selectCounts letters limited table,
    Sql.Prepared.read?_selectCounts letters unlimited table⟩

/-- What is read from a text is answered. -/
theorem answer?_ofStore
    {text : List Char}
    {statement : Sql.Select}
    (read : Sql.Prepared.read? text = some ⟨statement, 0⟩)
    (store : Store) :
    (Sql.Database.ofStore store).answer? (String.ofList text) [] = statement.answer? store :=
  Sql.answer?_of_read? (by rwa [String.toList_ofList]) store

/-- The store limits and counts the rows of statements on the records whose quoted names are none of
the names of the counts. -/
theorem SelectsRecords.serves
    (selects : SelectsRecords select clauses ending tail)
    (clear : tail.avoids Sql.isTallyName = true)
    {count skip : Int}
    (counted : Sql.limitValue? store (-1) tail.count = some count)
    (skipped : Sql.limitValue? store 0 tail.skip = some skip) :
    (Sql.Database.ofStore store).Serves select clauses ending count skip := by
  obtain ⟨label, onRecords⟩ := selects.onRecords
  obtain ⟨limitedCounts, unlimitedCounts⟩ := selects.read?_counts
  refine ⟨fun whole answers => ?_, fun whole limited answers leaves => ?_,
    fun whole tally answers tallied => ?_, fun limited positive leaves => ?_⟩
  · rw [answer?_ofStore selects.unlimited] at answers
    exact Sql.stored_of_answer? onRecords answers
  · rw [answer?_ofStore selects.unlimited] at answers
    rw [answer?_ofStore selects.limited] at leaves
    have left := Sql.answer?_selecting onRecords counted skipped answers leaves
    rw [left]
    exact ⟨rfl, whole.rows, .refl _, rfl⟩
  · rw [answer?_ofStore selects.unlimited] at answers
    rw [answer?_ofStore unlimitedCounts] at tallied
    have rows := Sql.answer?_tally onRecords clear answers
    obtain ⟨blocks, documents⟩ := (Sql.stored_of_answer? onRecords answers).countValues
    rw [tallied, Option.map_some, ← blocks, ← documents] at rows
    split_ifs at rows
    exact Option.some.inj rows
  · rw [answer?_ofStore limitedCounts] at leaves
    obtain ⟨tally, tallied, rfl⟩ :=
      Sql.answer?_tallying onRecords counted positive skipped leaves
    exact ⟨tally, by rw [answer?_ofStore unlimitedCounts, tallied], rfl⟩

/-- The statement that counts can be run unless a term of the order is the number of a column beyond
the two counts. -/
theorem SelectsRecords.isSome_answer?_counts
    (selects : SelectsRecords select clauses ending tail)
    (clear : tail.avoids Sql.isTallyName = true)
    {count skip : Int}
    (counted : Sql.limitValue? store (-1) tail.count = some count)
    (positive : count ≠ 0)
    (skipped : Sql.limitValue? store 0 tail.skip = some skip)
    {whole limited : Sql.Answer}
    (answers : (Sql.Database.ofStore store).answer? (String.ofList (select ++ clauses)) [] =
      some whole)
    (leaves : (Sql.Database.ofStore store).answer?
      (String.ofList (select ++ (clauses ++ ending))) [] = some limited) :
    ((Sql.Database.ofStore store).answer?
      (String.ofList (selectCounts ++ (clauses ++ ending))) []).isSome =
        Sql.orderFits 2 tail.order := by
  obtain ⟨label, onRecords⟩ := selects.onRecords
  rw [answer?_ofStore selects.unlimited] at answers
  rw [answer?_ofStore selects.limited] at leaves
  rw [answer?_ofStore selects.read?_counts.1]
  exact Sql.isSome_answer?_tallying onRecords clear counted positive skipped answers leaves

end

end Statement

namespace Found

theorem reads_skipping :
    (match Sql.Prepared.read? "select * from blocks limit 1 offset 1".toList with
    | some ⟨.mk false [.all] (.table table none) none [] (some (.value (.integer limit)))
        (some (.value (.integer offset))), parameters⟩ =>
        decide (table = "blocks" ∧ limit = 1 ∧ offset = 1 ∧ parameters = 0)
    | _ => false) = true := by
  decide +kernel

theorem read?_skipping :
    Sql.Prepared.read? "select * from blocks limit 1 offset 1".toList =
      some ⟨.mk false [.all] (.table "blocks" none) none [] (some (.value (.integer 1)))
        (some (.value (.integer 1))), 0⟩ := by
  have reads := reads_skipping
  split at reads
  · rename_i same
    obtain ⟨rfl, rfl, rfl, rfl⟩ := of_decide_eq_true reads
    exact same
  · exact absurd reads Bool.false_ne_true

theorem withLimit_skipping :
    Statement.withLimit 64
        (Query.removeInvisible "select * from blocks limit 1 offset 1".toList) =
      "select * from blocks limit 1 offset 1".toList := by
  decide +kernel

theorem reads_whole :
    (match Sql.Prepared.read? "select * from blocks".toList with
    | some ⟨.mk false [.all] (.table table none) none [] none none, parameters⟩ =>
        decide (table = "blocks" ∧ parameters = 0)
    | _ => false) = true := by
  decide +kernel

theorem read?_whole :
    Sql.Prepared.read? "select * from blocks".toList =
      some ⟨.mk false [.all] (.table "blocks" none) none [] none none, 0⟩ := by
  have reads := reads_whole
  split at reads
  · rename_i same
    obtain ⟨rfl, rfl⟩ := of_decide_eq_true reads
    exact same
  · exact absurd reads Bool.false_ne_true

/-- A record is skipped and the one behind it is found, but nothing is counted. -/
theorem byStatementOn_matching_of_offset :
    let first : Record := { id := "a", rootId := "d" }
    let second : Record := { id := "b", rootId := "d" }
    let database : Sql.Database := .ofStore { blocks := [first, second] }
    database.records? "select * from blocks" [] = some [first, second] ∧
      ∃ found, byStatementOn database 64 "select * from blocks limit 1 offset 1".toList =
          .ok found ∧
        found.records = [second] ∧ (found.blocks, found.documents) = (0, 0) := by
  intro first second database
  let store : Store := { blocks := [first, second] }
  let tail : Sql.Tail :=
    ⟨.table "blocks" none, none, [], some (.value (.integer 1)), some (.value (.integer 1))⟩
  have whole : database.records? "select * from blocks" [] = some [first, second] :=
    @Sql.records?_of_all _ _ none none read?_whole rfl rfl store (-1) 0 rfl (by decide) rfl
  have records : database.records? "select * from blocks limit 1 offset 1" [] = some [second] :=
    @Sql.records?_of_all _ _ (some (.value (.integer 1))) (some (.value (.integer 1)))
      read?_skipping rfl rfl store 1 1 rfl (by decide) rfl
  have selects : Statement.SelectsRecords "select * ".toList "from blocks".toList
      " limit 1 offset 1".toList tail :=
    ⟨by decide +kernel, read?_skipping, read?_whole,
      ⟨"blocks", "blocks", none, rfl, by decide +kernel, rfl⟩⟩
  have serves : database.Serves "select * ".toList "from blocks".toList
      " limit 1 offset 1".toList 1 1 := selects.serves (by decide +kernel) rfl rfl
  obtain ⟨found, answered, shown⟩ : ∃ found,
      byStatementOn database 64 "select * from blocks limit 1 offset 1".toList = .ok found ∧
        found.records = [second] := by
    rw [byStatementOn, withLimit_skipping, String.ofList_toList, records]
    exact ⟨_, rfl, rfl⟩
  obtain ⟨-, -, counted⟩ := byStatementOn_matching withLimit_skipping (by decide +kernel)
    (by decide +kernel) serves whole answered (by simp [shown])
  refine ⟨whole, found, answered, shown, ?_⟩
  rw [counted, if_neg fun both => absurd both.2 (by decide)]

end Found
end BlockSearch
