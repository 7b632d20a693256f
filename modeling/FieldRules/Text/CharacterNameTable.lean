/-
  FieldRules/Text/CharacterNameTable.lean
  =======================================
  **The list of character names.**

  The names of Unicode 14, but for those that a rule gives, in the order of their
  code points, and the further names that some characters have.  `CharacterName`
  says how the list is read.
-/
namespace FieldRules.Text

/-- A name by the number of words that it begins with as the name before it does, the words
    after these, and the number of words that it ends in as the name before it does.  Names
    follow one another as their code points do, but for those behind a code point. -/
def characterNameTable : String :=
"@20 0SPACE 0EXCLAMATION_MARK 0QUOTATION+1 0NUMBER_SIGN 0DOLLAR+1 0PERCENT+1 0AMPERSAND 0APOSTROPHE
0LEFT_PARENTHESIS 0RIGHT+1 0ASTERISK 0PLUS_SIGN 0COMMA 0HYPHEN-MINUS 0FULL_STOP 0SOLIDUS
0DIGIT_ZERO 1ONE 1TWO 1THREE 1FOUR 1FIVE 1SIX 1SEVEN 1EIGHT 1NINE 0COLON 0SEMICOLON 0LESS-THAN_SIGN
0EQUALS+1 0GREATER-THAN+1 0QUESTION_MARK 0COMMERCIAL_AT 0LATIN_CAPITAL_LETTER_A 3B 3C 3D 3E 3F 3G
3H 3I 3J 3K 3L 3M 3N 3O 3P 3Q 3R 3S 3T 3U 3V 3W 3X 3Y 3Z 0LEFT_SQUARE_BRACKET 0REVERSE_SOLIDUS
0RIGHT_SQUARE_BRACKET 0CIRCUMFLEX_ACCENT 0LOW_LINE 0GRAVE_ACCENT 0LATIN_SMALL_LETTER_A 3B 3C 3D 3E
3F 3G 3H 3I 3J 3K 3L 3M 3N 3O 3P 3Q 3R 3S 3T 3U 3V 3W 3X 3Y 3Z 0LEFT_CURLY_BRACKET 0VERTICAL_LINE
0RIGHT_CURLY_BRACKET 0TILDE @A0 0NO-BREAK_SPACE 0INVERTED_EXCLAMATION_MARK 0CENT_SIGN 0POUND+1
0CURRENCY+1 0YEN+1 0BROKEN_BAR 0SECTION_SIGN 0DIAERESIS 0COPYRIGHT_SIGN 0FEMININE_ORDINAL_INDICATOR
0LEFT-POINTING_DOUBLE_ANGLE_QUOTATION_MARK 0NOT_SIGN 0SOFT_HYPHEN 0REGISTERED_SIGN 0MACRON
0DEGREE_SIGN 0PLUS-MINUS+1 0SUPERSCRIPT_TWO 1THREE 0ACUTE_ACCENT 0MICRO_SIGN 0PILCROW+1 0MIDDLE_DOT
0CEDILLA 0SUPERSCRIPT_ONE 0MASCULINE_ORDINAL_INDICATOR 0RIGHT-POINTING_DOUBLE_ANGLE_QUOTATION_MARK
0VULGAR_FRACTION_ONE_QUARTER 3HALF 2THREE_QUARTERS 0INVERTED_QUESTION_MARK
0LATIN_CAPITAL_LETTER_A_WITH_GRAVE 5ACUTE 5CIRCUMFLEX 5TILDE 5DIAERESIS 5RING_ABOVE 3AE
3C_WITH_CEDILLA 3E_WITH_GRAVE 5ACUTE 5CIRCUMFLEX 5DIAERESIS 3I_WITH_GRAVE 5ACUTE 5CIRCUMFLEX
5DIAERESIS 3ETH 3N_WITH_TILDE 3O_WITH_GRAVE 5ACUTE 5CIRCUMFLEX 5TILDE 5DIAERESIS
0MULTIPLICATION_SIGN 0LATIN_CAPITAL_LETTER_O_WITH_STROKE 3U_WITH_GRAVE 5ACUTE 5CIRCUMFLEX
5DIAERESIS 3Y_WITH_ACUTE 3THORN 1SMALL_LETTER_SHARP_S 3A_WITH_GRAVE 5ACUTE 5CIRCUMFLEX 5TILDE
5DIAERESIS 5RING_ABOVE 3AE 3C_WITH_CEDILLA 3E_WITH_GRAVE 5ACUTE 5CIRCUMFLEX 5DIAERESIS
3I_WITH_GRAVE 5ACUTE 5CIRCUMFLEX 5DIAERESIS 3ETH 3N_WITH_TILDE 3O_WITH_GRAVE 5ACUTE 5CIRCUMFLEX
5TILDE 5DIAERESIS 0DIVISION_SIGN 0LATIN_SMALL_LETTER_O_WITH_STROKE 3U_WITH_GRAVE 5ACUTE 5CIRCUMFLEX
5DIAERESIS 3Y_WITH_ACUTE 3THORN 3Y_WITH_DIAERESIS 1CAPITAL_LETTER_A_WITH_MACRON 1SMALL+4
1CAPITAL_LETTER_A_WITH_BREVE 1SMALL+4 1CAPITAL_LETTER_A_WITH_OGONEK 1SMALL+4
1CAPITAL_LETTER_C_WITH_ACUTE 1SMALL+4 1CAPITAL_LETTER_C_WITH_CIRCUMFLEX 1SMALL+4
1CAPITAL_LETTER_C_WITH_DOT_ABOVE 1SMALL+5 1CAPITAL_LETTER_C_WITH_CARON 1SMALL+4 1CAPITAL_LETTER_D+2
1SMALL+4 1CAPITAL_LETTER_D_WITH_STROKE 1SMALL+4 1CAPITAL_LETTER_E_WITH_MACRON 1SMALL+4
1CAPITAL_LETTER_E_WITH_BREVE 1SMALL+4 1CAPITAL_LETTER_E_WITH_DOT_ABOVE 1SMALL+5
1CAPITAL_LETTER_E_WITH_OGONEK 1SMALL+4 1CAPITAL_LETTER_E_WITH_CARON 1SMALL+4
1CAPITAL_LETTER_G_WITH_CIRCUMFLEX 1SMALL+4 1CAPITAL_LETTER_G_WITH_BREVE 1SMALL+4
1CAPITAL_LETTER_G_WITH_DOT_ABOVE 1SMALL+5 1CAPITAL_LETTER_G_WITH_CEDILLA 1SMALL+4
1CAPITAL_LETTER_H_WITH_CIRCUMFLEX 1SMALL+4 1CAPITAL_LETTER_H_WITH_STROKE 1SMALL+4
1CAPITAL_LETTER_I_WITH_TILDE 1SMALL+4 1CAPITAL_LETTER_I_WITH_MACRON 1SMALL+4
1CAPITAL_LETTER_I_WITH_BREVE 1SMALL+4 1CAPITAL_LETTER_I_WITH_OGONEK 1SMALL+4
1CAPITAL_LETTER_I_WITH_DOT_ABOVE 1SMALL_LETTER_DOTLESS_I 1CAPITAL_LIGATURE_IJ 1SMALL+2
1CAPITAL_LETTER_J_WITH_CIRCUMFLEX 1SMALL+4 1CAPITAL_LETTER_K_WITH_CEDILLA 1SMALL+4 3KRA
1CAPITAL_LETTER_L_WITH_ACUTE 1SMALL+4 1CAPITAL_LETTER_L_WITH_CEDILLA 1SMALL+4
1CAPITAL_LETTER_L_WITH_CARON 1SMALL+4 1CAPITAL_LETTER_L_WITH_MIDDLE_DOT 1SMALL+5
1CAPITAL_LETTER_L_WITH_STROKE 1SMALL+4 1CAPITAL_LETTER_N_WITH_ACUTE 1SMALL+4
1CAPITAL_LETTER_N_WITH_CEDILLA 1SMALL+4 1CAPITAL_LETTER_N_WITH_CARON 1SMALL+4
4PRECEDED_BY_APOSTROPHE 1CAPITAL_LETTER_ENG 1SMALL+2 1CAPITAL_LETTER_O_WITH_MACRON 1SMALL+4
1CAPITAL_LETTER_O_WITH_BREVE 1SMALL+4 1CAPITAL_LETTER_O_WITH_DOUBLE_ACUTE 1SMALL+5
1CAPITAL_LIGATURE_OE 1SMALL+2 1CAPITAL_LETTER_R_WITH_ACUTE 1SMALL+4 1CAPITAL_LETTER_R_WITH_CEDILLA
1SMALL+4 1CAPITAL_LETTER_R_WITH_CARON 1SMALL+4 1CAPITAL_LETTER_S_WITH_ACUTE 1SMALL+4
1CAPITAL_LETTER_S_WITH_CIRCUMFLEX 1SMALL+4 1CAPITAL_LETTER_S_WITH_CEDILLA 1SMALL+4
1CAPITAL_LETTER_S_WITH_CARON 1SMALL+4 1CAPITAL_LETTER_T_WITH_CEDILLA 1SMALL+4
1CAPITAL_LETTER_T_WITH_CARON 1SMALL+4 1CAPITAL_LETTER_T_WITH_STROKE 1SMALL+4
1CAPITAL_LETTER_U_WITH_TILDE 1SMALL+4 1CAPITAL_LETTER_U_WITH_MACRON 1SMALL+4
1CAPITAL_LETTER_U_WITH_BREVE 1SMALL+4 1CAPITAL_LETTER_U_WITH_RING_ABOVE 1SMALL+5
1CAPITAL_LETTER_U_WITH_DOUBLE_ACUTE 1SMALL+5 1CAPITAL_LETTER_U_WITH_OGONEK 1SMALL+4
1CAPITAL_LETTER_W_WITH_CIRCUMFLEX 1SMALL+4 1CAPITAL_LETTER_Y+2 1SMALL+4
1CAPITAL_LETTER_Y_WITH_DIAERESIS 3Z_WITH_ACUTE 1SMALL+4 1CAPITAL_LETTER_Z_WITH_DOT_ABOVE 1SMALL+5
1CAPITAL_LETTER_Z_WITH_CARON 1SMALL+4 3LONG_S 3B_WITH_STROKE 1CAPITAL_LETTER_B_WITH_HOOK 5TOPBAR
1SMALL+4 1CAPITAL_LETTER_TONE_SIX 1SMALL+3 1CAPITAL_LETTER_OPEN_O 3C_WITH_HOOK 1SMALL+4
1CAPITAL_LETTER_AFRICAN_D 3D_WITH_HOOK 5TOPBAR 1SMALL+4 3TURNED_DELTA 1CAPITAL_LETTER_REVERSED_E
3SCHWA 3OPEN_E 3F_WITH_HOOK 1SMALL+4 1CAPITAL_LETTER_G+2 3GAMMA 1SMALL_LETTER_HV
1CAPITAL_LETTER_IOTA 3I_WITH_STROKE 3K_WITH_HOOK 1SMALL+4 3L_WITH_BAR 3LAMBDA_WITH_STROKE
1CAPITAL_LETTER_TURNED_M 3N_WITH_LEFT_HOOK 1SMALL_LETTER_N_WITH_LONG_RIGHT_LEG
1CAPITAL_LETTER_O_WITH_MIDDLE_TILDE 5HORN 1SMALL+4 1CAPITAL_LETTER_OI 1SMALL+2
1CAPITAL_LETTER_P_WITH_HOOK 1SMALL+4 1LETTER_YR 1CAPITAL_LETTER_TONE_TWO 1SMALL+3
1CAPITAL_LETTER_ESH 1LETTER_REVERSED_ESH_LOOP 1SMALL_LETTER_T_WITH_PALATAL_HOOK
1CAPITAL_LETTER_T_WITH+1 1SMALL+4 1CAPITAL_LETTER_T_WITH_RETROFLEX+1 3U_WITH_HORN 1SMALL+4
1CAPITAL_LETTER_UPSILON 3V_WITH_HOOK 3Y+2 1SMALL+4 1CAPITAL_LETTER_Z_WITH_STROKE 1SMALL+4
1CAPITAL_LETTER_EZH 4REVERSED 1SMALL+3 4WITH_TAIL 1LETTER_TWO_WITH_STROKE 1CAPITAL_LETTER_TONE_FIVE
1SMALL+3 1LETTER_INVERTED_GLOTTAL_STOP_WITH_STROKE 2WYNN 2DENTAL_CLICK 2LATERAL+1 2ALVEOLAR+1
2RETROFLEX+1 1CAPITAL_LETTER_DZ_WITH_CARON 3D_WITH_SMALL_LETTER_Z+2 1SMALL_LETTER_DZ+2
1CAPITAL_LETTER_LJ 3L_WITH_SMALL_LETTER_J 1SMALL_LETTER_LJ 1CAPITAL_LETTER_NJ
3N_WITH_SMALL_LETTER_J 1SMALL_LETTER_NJ 1CAPITAL_LETTER_A_WITH_CARON 1SMALL+4 1CAPITAL_LETTER_I+2
1SMALL+4 1CAPITAL_LETTER_O+2 1SMALL+4 1CAPITAL_LETTER_U+2 1SMALL+4
1CAPITAL_LETTER_U_WITH_DIAERESIS_AND_MACRON 1SMALL+6 1CAPITAL_LETTER_U_WITH_DIAERESIS_AND_ACUTE
1SMALL+6 1CAPITAL_LETTER_U_WITH_DIAERESIS_AND_CARON 1SMALL+6
1CAPITAL_LETTER_U_WITH_DIAERESIS_AND_GRAVE 1SMALL+6 3TURNED_E
1CAPITAL_LETTER_A_WITH_DIAERESIS_AND_MACRON 1SMALL+6 1CAPITAL_LETTER_A_WITH_DOT_ABOVE+2 1SMALL+7
1CAPITAL_LETTER_AE_WITH+1 1SMALL+4 1CAPITAL_LETTER_G_WITH_STROKE 1SMALL+4
1CAPITAL_LETTER_G_WITH_CARON 1SMALL+4 1CAPITAL_LETTER_K+2 1SMALL+4 1CAPITAL_LETTER_O_WITH_OGONEK
1SMALL+4 1CAPITAL_LETTER_O_WITH_OGONEK_AND_MACRON 1SMALL+6 1CAPITAL_LETTER_EZH_WITH_CARON 1SMALL+4
3J+2 1CAPITAL_LETTER_DZ 3D_WITH_SMALL_LETTER_Z 1SMALL_LETTER_DZ 1CAPITAL_LETTER_G_WITH_ACUTE
1SMALL+4 1CAPITAL_LETTER_HWAIR 3WYNN 3N_WITH_GRAVE 1SMALL+4
1CAPITAL_LETTER_A_WITH_RING_ABOVE_AND_ACUTE 1SMALL+7 1CAPITAL_LETTER_AE_WITH+1 1SMALL+4
1CAPITAL_LETTER_O_WITH_STROKE_AND+1 1SMALL+6 1CAPITAL_LETTER_A_WITH_DOUBLE_GRAVE 1SMALL+5
1CAPITAL_LETTER_A_WITH_INVERTED_BREVE 1SMALL+5 1CAPITAL_LETTER_E_WITH_DOUBLE_GRAVE 1SMALL+5
1CAPITAL_LETTER_E_WITH_INVERTED_BREVE 1SMALL+5 1CAPITAL_LETTER_I_WITH_DOUBLE_GRAVE 1SMALL+5
1CAPITAL_LETTER_I_WITH_INVERTED_BREVE 1SMALL+5 1CAPITAL_LETTER_O_WITH_DOUBLE_GRAVE 1SMALL+5
1CAPITAL_LETTER_O_WITH_INVERTED_BREVE 1SMALL+5 1CAPITAL_LETTER_R_WITH_DOUBLE_GRAVE 1SMALL+5
1CAPITAL_LETTER_R_WITH_INVERTED_BREVE 1SMALL+5 1CAPITAL_LETTER_U_WITH_DOUBLE_GRAVE 1SMALL+5
1CAPITAL_LETTER_U_WITH_INVERTED_BREVE 1SMALL+5 1CAPITAL_LETTER_S_WITH_COMMA_BELOW 1SMALL+5
1CAPITAL_LETTER_T+3 1SMALL+5 1CAPITAL_LETTER_YOGH 1SMALL+2 1CAPITAL_LETTER_H_WITH_CARON 1SMALL+4
1CAPITAL_LETTER_N_WITH_LONG_RIGHT_LEG 1SMALL_LETTER_D_WITH_CURL 1CAPITAL_LETTER_OU 1SMALL+2
1CAPITAL_LETTER_Z_WITH_HOOK 1SMALL+4 1CAPITAL_LETTER_A_WITH_DOT_ABOVE 1SMALL+5
1CAPITAL_LETTER_E_WITH_CEDILLA 1SMALL+4 1CAPITAL_LETTER_O_WITH_DIAERESIS_AND_MACRON 1SMALL+6
1CAPITAL_LETTER_O_WITH_TILDE+2 1SMALL+6 1CAPITAL_LETTER_O_WITH_DOT_ABOVE 1SMALL+5
1CAPITAL_LETTER_O_WITH_DOT_ABOVE_AND_MACRON 1SMALL+7 1CAPITAL_LETTER_Y_WITH+1 1SMALL+4 3L_WITH_CURL
3N+2 3T+2 3DOTLESS_J 3DB_DIGRAPH 3QP+1 1CAPITAL_LETTER_A_WITH_STROKE 3C+2 1SMALL+4
1CAPITAL_LETTER_L_WITH_BAR 3T_WITH_DIAGONAL_STROKE 1SMALL_LETTER_S_WITH_SWASH_TAIL 3Z+3
1CAPITAL_LETTER_GLOTTAL_STOP 1SMALL+3 1CAPITAL_LETTER_B_WITH_STROKE 3U_BAR 3TURNED_V 3E_WITH_STROKE
1SMALL+4 1CAPITAL_LETTER_J+2 1SMALL+4 1CAPITAL_LETTER_SMALL_Q_WITH_HOOK_TAIL 1SMALL_LETTER+4
1CAPITAL_LETTER_R_WITH_STROKE 1SMALL+4 1CAPITAL_LETTER_Y+2 1SMALL+4 3TURNED_A 3ALPHA 3TURNED+1
3B_WITH_HOOK 3OPEN_O 3C_WITH_CURL 3D_WITH_TAIL 5HOOK 3REVERSED_E 3SCHWA 4WITH_HOOK 3OPEN_E
3REVERSED+2 6WITH_HOOK 3CLOSED_REVERSED_OPEN_E 3DOTLESS_J_WITH_STROKE 3G_WITH_HOOK 3SCRIPT_G
1LETTER_SMALL_CAPITAL+1 1SMALL_LETTER_GAMMA 3RAMS_HORN 3TURNED_H 3H_WITH_HOOK 3HENG+2
3I_WITH_STROKE 3IOTA 1LETTER_SMALL_CAPITAL_I 1SMALL_LETTER_L_WITH_MIDDLE_TILDE 5BELT
5RETROFLEX_HOOK 3LEZH 3TURNED_M 5WITH_LONG_LEG 3M_WITH_HOOK 3N_WITH_LEFT+1 5RETROFLEX+1
1LETTER_SMALL_CAPITAL_N 1SMALL_LETTER_BARRED_O 1LETTER_SMALL_CAPITAL_OE 1SMALL_LETTER_CLOSED_OMEGA
3PHI 3TURNED_R 5WITH_LONG_LEG 6HOOK 3R_WITH_LONG_LEG 5TAIL 5FISHHOOK 3REVERSED+3
1LETTER_SMALL_CAPITAL_R 4INVERTED+1 1SMALL_LETTER_S_WITH_HOOK 3ESH 3DOTLESS_J_WITH_STROKE_AND_HOOK
3SQUAT_REVERSED_ESH 3ESH_WITH_CURL 3TURNED_T 3T_WITH_RETROFLEX_HOOK 3U_BAR 3UPSILON 3V_WITH_HOOK
3TURNED_V 4W 4Y 1LETTER_SMALL_CAPITAL+1 1SMALL_LETTER_Z_WITH_RETROFLEX_HOOK 5CURL 3EZH 4WITH_CURL
1LETTER_GLOTTAL_STOP 2PHARYNGEAL_VOICED_FRICATIVE 2INVERTED_GLOTTAL_STOP 2STRETCHED_C
2BILABIAL_CLICK 2SMALL_CAPITAL_B 1SMALL_LETTER_CLOSED_OPEN_E 1LETTER_SMALL_CAPITAL_G_WITH_HOOK 4H
1SMALL_LETTER_J_WITH_CROSSED-TAIL 3TURNED_K 1LETTER_SMALL_CAPITAL_L 1SMALL_LETTER_Q_WITH_HOOK
1LETTER_GLOTTAL_STOP_WITH_STROKE 2REVERSED+4 1SMALL_LETTER_DZ_DIGRAPH 3DEZH+1 3DZ_DIGRAPH_WITH_CURL
3TS_DIGRAPH 3TESH+1 3TC_DIGRAPH_WITH_CURL 3FENG_DIGRAPH 3LS+1 3LZ+1 1LETTER_BILABIAL_PERCUSSIVE
2BIDENTAL+1 1SMALL_LETTER_TURNED_H_WITH_FISHHOOK 7AND_TAIL 0MODIFIER_LETTER_SMALL_H 4WITH_HOOK 3J
3R 3TURNED+1 5WITH_HOOK 3CAPITAL_INVERTED_R 3W 3Y 2PRIME 2DOUBLE+1 2TURNED_COMMA 2APOSTROPHE
2REVERSED_COMMA 2RIGHT_HALF_RING 2LEFT+2 2GLOTTAL_STOP 2REVERSED+2 2LEFT_ARROWHEAD 2RIGHT+1 2UP+1
2DOWN+1 2CIRCUMFLEX_ACCENT 0CARON 0MODIFIER_LETTER_VERTICAL_LINE 2MACRON 2ACUTE_ACCENT 2GRAVE+1
2LOW_VERTICAL_LINE 3MACRON 3GRAVE_ACCENT 3ACUTE+1 2TRIANGULAR_COLON 2HALF+2
2CENTRED_RIGHT_HALF_RING 3LEFT+2 2UP_TACK 2DOWN+1 2PLUS_SIGN 2MINUS+1 0BREVE 0DOT_ABOVE 0RING+1
0OGONEK 0SMALL_TILDE 0DOUBLE_ACUTE_ACCENT 0MODIFIER_LETTER_RHOTIC_HOOK 2CROSS_ACCENT 2SMALL_GAMMA
3L 3S 3X 3REVERSED_GLOTTAL_STOP 2EXTRA-HIGH_TONE_BAR 2HIGH+2 2MID+2 2LOW+2 2EXTRA-LOW+2
2YIN_DEPARTING_TONE_MARK 2YANG+3 2VOICING 2UNASPIRATED 2DOUBLE_APOSTROPHE 2LOW_DOWN_ARROWHEAD 3UP+1
3LEFT+1 3RIGHT+1 3RING 2MIDDLE_GRAVE_ACCENT 3DOUBLE+2 4ACUTE+1 2LOW_TILDE 2RAISED_COLON
2BEGIN_HIGH_TONE 2END+2 2BEGIN_LOW+1 2END+2 2SHELF 2OPEN+1 2LOW_LEFT_ARROW 0COMBINING_GRAVE_ACCENT
1ACUTE+1 1CIRCUMFLEX+1 1TILDE 1MACRON 1OVERLINE 1BREVE 1DOT_ABOVE 1DIAERESIS 1HOOK_ABOVE 1RING+1
1DOUBLE_ACUTE_ACCENT 1CARON 1VERTICAL_LINE_ABOVE 1DOUBLE+3 2GRAVE_ACCENT 1CANDRABINDU
1INVERTED_BREVE 1TURNED_COMMA_ABOVE 1+2 1REVERSED+2 1COMMA_ABOVE_RIGHT 1GRAVE_ACCENT_BELOW 1ACUTE+2
1LEFT_TACK+1 1RIGHT+2 1LEFT_ANGLE_ABOVE 1HORN 1LEFT_HALF_RING_BELOW 1UP_TACK+1 1DOWN+2 1PLUS_SIGN+1
1MINUS+2 1PALATALIZED_HOOK+1 1RETROFLEX+2 1DOT+1 1DIAERESIS+1 1RING+1 1COMMA+1 1CEDILLA 1OGONEK
1VERTICAL_LINE_BELOW 1BRIDGE+1 1INVERTED_DOUBLE_ARCH+1 1CARON+1 1CIRCUMFLEX_ACCENT+1 1BREVE+1
1INVERTED+2 1TILDE+1 1MACRON+1 1LOW_LINE 1DOUBLE+2 1TILDE_OVERLAY 1SHORT_STROKE+1 1LONG+2
1SHORT_SOLIDUS+1 1LONG+2 1RIGHT_HALF_RING_BELOW 1INVERTED_BRIDGE+1 1SQUARE+1 1SEAGULL+1 1X_ABOVE
1VERTICAL_TILDE 1DOUBLE_OVERLINE 1GRAVE_TONE_MARK 1ACUTE+2 1GREEK_PERISPOMENI 2KORONIS
2DIALYTIKA_TONOS 2YPOGEGRAMMENI 1BRIDGE_ABOVE 1EQUALS_SIGN_BELOW 1DOUBLE_VERTICAL_LINE+1
1LEFT_ANGLE+1 1NOT_TILDE_ABOVE 1HOMOTHETIC+1 1ALMOST_EQUAL_TO+1 1LEFT_RIGHT_ARROW_BELOW 1UPWARDS+2
1GRAPHEME_JOINER 1RIGHT_ARROWHEAD_ABOVE 1LEFT_HALF_RING+1 1FERMATA 1X_BELOW 1LEFT_ARROWHEAD+1
1RIGHT+2 3AND_UP_ARROWHEAD+1 2HALF_RING_ABOVE 1DOT_ABOVE_RIGHT 1ASTERISK_BELOW 1DOUBLE_RING+1
1ZIGZAG_ABOVE 1DOUBLE_BREVE_BELOW 3 2MACRON 3BELOW 2TILDE 2INVERTED_BREVE 2RIGHTWARDS_ARROW_BELOW
1LATIN_SMALL_LETTER_A 4E 4I 4O 4U 4C 4D 4H 4M 4R 4T 4V 4X 0GREEK_CAPITAL_LETTER_HETA 1SMALL+2
1CAPITAL_LETTER_ARCHAIC_SAMPI 1SMALL+3 1NUMERAL_SIGN 1LOWER+2 1CAPITAL_LETTER_PAMPHYLIAN_DIGAMMA
1SMALL+3 @37A 1YPOGEGRAMMENI 1SMALL_REVERSED_LUNATE_SIGMA_SYMBOL 2DOTTED+3 2REVERSED+4
1QUESTION_MARK 1CAPITAL_LETTER_YOT @384 1TONOS 1DIALYTIKA+1 1CAPITAL_LETTER_ALPHA_WITH+1
1ANO_TELEIA 1CAPITAL_LETTER_EPSILON_WITH_TONOS 3ETA+2 3IOTA+2 @38C 3OMICRON+2 @38E 3UPSILON+2
3OMEGA+2 1SMALL_LETTER_IOTA_WITH_DIALYTIKA_AND+1 1CAPITAL_LETTER_ALPHA 3BETA 3GAMMA 3DELTA 3EPSILON
3ZETA 3ETA 3THETA 3IOTA 3KAPPA 3LAMDA 3MU 3NU 3XI 3OMICRON 3PI 3RHO @3A3 3SIGMA 3TAU 3UPSILON 3PHI
3CHI 3PSI 3OMEGA 3IOTA_WITH_DIALYTIKA 3UPSILON+2 1SMALL_LETTER_ALPHA_WITH_TONOS 3EPSILON+2 3ETA+2
3IOTA+2 3UPSILON_WITH_DIALYTIKA_AND+1 3ALPHA 3BETA 3GAMMA 3DELTA 3EPSILON 3ZETA 3ETA 3THETA 3IOTA
3KAPPA 3LAMDA 3MU 3NU 3XI 3OMICRON 3PI 3RHO 3FINAL_SIGMA 3+1 3TAU 3UPSILON 3PHI 3CHI 3PSI 3OMEGA
3IOTA_WITH_DIALYTIKA 3UPSILON+2 3OMICRON_WITH_TONOS 3UPSILON+2 3OMEGA+2 1CAPITAL_KAI_SYMBOL 1BETA+1
1THETA+1 1UPSILON_WITH_HOOK+1 3ACUTE_AND+2 3DIAERESIS+3 1PHI+1 1PI+1 1KAI+1 1LETTER_ARCHAIC_KOPPA
1SMALL+3 1LETTER_STIGMA 1SMALL+2 1LETTER_DIGAMMA 1SMALL+2 1LETTER_KOPPA 1SMALL+2 1LETTER_SAMPI
1SMALL+2 0COPTIC_CAPITAL_LETTER_SHEI 1SMALL+2 1CAPITAL_LETTER_FEI 1SMALL+2 1CAPITAL_LETTER_KHEI
1SMALL+2 1CAPITAL_LETTER_HORI 1SMALL+2 1CAPITAL_LETTER_GANGIA 1SMALL+2 1CAPITAL_LETTER_SHIMA
1SMALL+2 1CAPITAL_LETTER_DEI 1SMALL+2 0GREEK_KAPPA_SYMBOL 1RHO+1 1LUNATE_SIGMA+1 1LETTER_YOT
1CAPITAL_THETA_SYMBOL 1LUNATE_EPSILON+1 1REVERSED+3 1CAPITAL_LETTER_SHO 1SMALL+2
1CAPITAL_LUNATE_SIGMA_SYMBOL 2LETTER_SAN 1SMALL+2 1RHO_WITH_STROKE_SYMBOL
1CAPITAL_REVERSED_LUNATE_SIGMA+1 2DOTTED+3 2REVERSED+4 0CYRILLIC_CAPITAL_LETTER_IE_WITH_GRAVE 3IO
3DJE 3GJE 3UKRAINIAN_IE 3DZE 3BYELORUSSIAN-UKRAINIAN_I 3YI 3JE 3LJE 3NJE 3TSHE 3KJE 3I_WITH_GRAVE
3SHORT_U 3DZHE 3A 3BE 3VE 3GHE 3DE 3IE 3ZHE 3ZE 3I 3SHORT+1 3KA 3EL 3EM 3EN 3O 3PE 3ER 3ES 3TE 3U
3EF 3HA 3TSE 3CHE 3SHA 3SHCHA 3HARD_SIGN 3YERU 3SOFT_SIGN 3E 3YU 3YA 1SMALL_LETTER_A 3BE 3VE 3GHE
3DE 3IE 3ZHE 3ZE 3I 3SHORT+1 3KA 3EL 3EM 3EN 3O 3PE 3ER 3ES 3TE 3U 3EF 3HA 3TSE 3CHE 3SHA 3SHCHA
3HARD_SIGN 3YERU 3SOFT_SIGN 3E 3YU 3YA 3IE_WITH_GRAVE 3IO 3DJE 3GJE 3UKRAINIAN_IE 3DZE
3BYELORUSSIAN-UKRAINIAN_I 3YI 3JE 3LJE 3NJE 3TSHE 3KJE 3I_WITH_GRAVE 3SHORT_U 3DZHE
1CAPITAL_LETTER_OMEGA 1SMALL+2 1CAPITAL_LETTER_YAT 1SMALL+2 1CAPITAL_LETTER_IOTIFIED_E 1SMALL+3
1CAPITAL_LETTER_LITTLE_YUS 1SMALL+3 1CAPITAL_LETTER_IOTIFIED+2 1SMALL+4 1CAPITAL_LETTER_BIG+1
1SMALL+3 1CAPITAL_LETTER_IOTIFIED+2 1SMALL+4 1CAPITAL_LETTER_KSI 1SMALL+2 1CAPITAL_LETTER_PSI
1SMALL+2 1CAPITAL_LETTER_FITA 1SMALL+2 1CAPITAL_LETTER_IZHITSA 1SMALL+2
1CAPITAL_LETTER_IZHITSA_WITH_DOUBLE_GRAVE_ACCENT 1SMALL+6 1CAPITAL_LETTER_UK 1SMALL+2
1CAPITAL_LETTER_ROUND_OMEGA 1SMALL+3 1CAPITAL_LETTER_OMEGA_WITH_TITLO 1SMALL+4 1CAPITAL_LETTER_OT
1SMALL+2 1CAPITAL_LETTER_KOPPA 1SMALL+2 1THOUSANDS_SIGN 0COMBINING_CYRILLIC_TITLO 2PALATALIZATION
2DASIA_PNEUMATA 2PSILI+1 2POKRYTIE 2HUNDRED_THOUSANDS_SIGN 2MILLIONS+1
0CYRILLIC_CAPITAL_LETTER_SHORT_I_WITH_TAIL 1SMALL+5 1CAPITAL_LETTER_SEMISOFT_SIGN 1SMALL+3
1CAPITAL_LETTER_ER_WITH_TICK 1SMALL+4 1CAPITAL_LETTER_GHE_WITH_UPTURN 1SMALL+4
1CAPITAL_LETTER_GHE_WITH_STROKE 1SMALL+4 1CAPITAL_LETTER_GHE_WITH_MIDDLE_HOOK 1SMALL+5
1CAPITAL_LETTER_ZHE_WITH_DESCENDER 1SMALL+4 1CAPITAL_LETTER_ZE+2 1SMALL+4 1CAPITAL_LETTER_KA+2
1SMALL+4 1CAPITAL_LETTER_KA_WITH_VERTICAL_STROKE 1SMALL+5 1CAPITAL_LETTER_KA_WITH+1 1SMALL+4
1CAPITAL_LETTER_BASHKIR_KA 1SMALL+3 1CAPITAL_LETTER_EN_WITH_DESCENDER 1SMALL+4
1CAPITAL_LIGATURE_EN_GHE 1SMALL+3 1CAPITAL_LETTER_PE_WITH_MIDDLE_HOOK 1SMALL+5
1CAPITAL_LETTER_ABKHASIAN_HA 1SMALL+3 1CAPITAL_LETTER_ES_WITH_DESCENDER 1SMALL+4
1CAPITAL_LETTER_TE+2 1SMALL+4 1CAPITAL_LETTER_STRAIGHT_U 1SMALL+3
1CAPITAL_LETTER_STRAIGHT_U_WITH_STROKE 1SMALL+5 1CAPITAL_LETTER_HA_WITH_DESCENDER 1SMALL+4
1CAPITAL_LIGATURE_TE_TSE 1SMALL+3 1CAPITAL_LETTER_CHE_WITH_DESCENDER 1SMALL+4
1CAPITAL_LETTER_CHE_WITH_VERTICAL_STROKE 1SMALL+5 1CAPITAL_LETTER_SHHA 1SMALL+2
1CAPITAL_LETTER_ABKHASIAN_CHE 1SMALL+3 1CAPITAL_LETTER_ABKHASIAN_CHE_WITH_DESCENDER 1SMALL+5
1LETTER_PALOCHKA 1CAPITAL_LETTER_ZHE_WITH_BREVE 1SMALL+4 1CAPITAL_LETTER_KA_WITH_HOOK 1SMALL+4
1CAPITAL_LETTER_EL_WITH_TAIL 1SMALL+4 1CAPITAL_LETTER_EN_WITH_HOOK 1SMALL+4
1CAPITAL_LETTER_EN_WITH_TAIL 1SMALL+4 1CAPITAL_LETTER_KHAKASSIAN_CHE 1SMALL+3
1CAPITAL_LETTER_EM_WITH_TAIL 1SMALL+4 3PALOCHKA 1CAPITAL_LETTER_A_WITH_BREVE 1SMALL+4
1CAPITAL_LETTER_A_WITH_DIAERESIS 1SMALL+4 1CAPITAL_LIGATURE_A_IE 1SMALL+3
1CAPITAL_LETTER_IE_WITH_BREVE 1SMALL+4 1CAPITAL_LETTER_SCHWA 1SMALL+2
1CAPITAL_LETTER_SCHWA_WITH_DIAERESIS 1SMALL+4 1CAPITAL_LETTER_ZHE+2 1SMALL+4 1CAPITAL_LETTER_ZE+2
1SMALL+4 1CAPITAL_LETTER_ABKHASIAN_DZE 1SMALL+3 1CAPITAL_LETTER_I_WITH_MACRON 1SMALL+4
1CAPITAL_LETTER_I_WITH_DIAERESIS 1SMALL+4 1CAPITAL_LETTER_O+2 1SMALL+4 1CAPITAL_LETTER_BARRED_O
1SMALL+3 1CAPITAL_LETTER_BARRED_O_WITH_DIAERESIS 1SMALL+5 1CAPITAL_LETTER_E+2 1SMALL+4
1CAPITAL_LETTER_U_WITH_MACRON 1SMALL+4 1CAPITAL_LETTER_U_WITH_DIAERESIS 1SMALL+4
1CAPITAL_LETTER_U_WITH_DOUBLE_ACUTE 1SMALL+5 1CAPITAL_LETTER_CHE_WITH_DIAERESIS 1SMALL+4
1CAPITAL_LETTER_GHE_WITH_DESCENDER 1SMALL+4 1CAPITAL_LETTER_YERU_WITH_DIAERESIS 1SMALL+4
1CAPITAL_LETTER_GHE_WITH_STROKE_AND_HOOK 1SMALL+6 1CAPITAL_LETTER_HA_WITH+1 1SMALL+4
1CAPITAL_LETTER_HA_WITH_STROKE 1SMALL+4 1CAPITAL_LETTER_KOMI_DE 1SMALL+3 1CAPITAL_LETTER_KOMI_DJE
1SMALL+3 1CAPITAL_LETTER_KOMI_ZJE 1SMALL+3 1CAPITAL_LETTER_KOMI_DZJE 1SMALL+3
1CAPITAL_LETTER_KOMI_LJE 1SMALL+3 1CAPITAL_LETTER_KOMI_NJE 1SMALL+3 1CAPITAL_LETTER_KOMI_SJE
1SMALL+3 1CAPITAL_LETTER_KOMI_TJE 1SMALL+3 1CAPITAL_LETTER_REVERSED_ZE 1SMALL+3
1CAPITAL_LETTER_EL_WITH_HOOK 1SMALL+4 1CAPITAL_LETTER_LHA 1SMALL+2 1CAPITAL_LETTER_RHA 1SMALL+2
1CAPITAL_LETTER_YAE 1SMALL+2 1CAPITAL_LETTER_QA 1SMALL+2 1CAPITAL_LETTER_WE 1SMALL+2
1CAPITAL_LETTER_ALEUT_KA 1SMALL+3 1CAPITAL_LETTER_EL_WITH_MIDDLE_HOOK 1SMALL+5 1CAPITAL_LETTER_EN+3
1SMALL+5 1CAPITAL_LETTER_PE_WITH_DESCENDER 1SMALL+4 1CAPITAL_LETTER_SHHA+2 1SMALL+4
1CAPITAL_LETTER_EN_WITH_LEFT_HOOK 1SMALL+5 1CAPITAL_LETTER_DZZHE 1SMALL+2 1CAPITAL_LETTER_DCHE
1SMALL+2 1CAPITAL_LETTER_EL_WITH_DESCENDER 1SMALL+4 @531 0ARMENIAN_CAPITAL_LETTER_AYB 3BEN 3GIM 3DA
3ECH 3ZA 3EH 3ET 3TO 3ZHE 3INI 3LIWN 3XEH 3CA 3KEN 3HO 3JA 3GHAD 3CHEH 3MEN 3YI 3NOW 3SHA 3VO 3CHA
3PEH 3JHEH 3RA 3SEH 3VEW 3TIWN 3REH 3CO 3YIWN 3PIWR 3KEH 3OH 3FEH @559
1MODIFIER_LETTER_LEFT_HALF_RING 1APOSTROPHE 1EMPHASIS_MARK 1EXCLAMATION+1 1COMMA 1QUESTION_MARK
1ABBREVIATION+1 1SMALL_LETTER_TURNED_AYB 3+1 3BEN 3GIM 3DA 3ECH 3ZA 3EH 3ET 3TO 3ZHE 3INI 3LIWN
3XEH 3CA 3KEN 3HO 3JA 3GHAD 3CHEH 3MEN 3YI 3NOW 3SHA 3VO 3CHA 3PEH 3JHEH 3RA 3SEH 3VEW 3TIWN 3REH
3CO 3YIWN 3PIWR 3KEH 3OH 3FEH 2LIGATURE_ECH_YIWN 2LETTER_YI_WITH_STROKE 1FULL_STOP 1HYPHEN @58D
0RIGHT-FACING_ARMENIAN_ETERNITY_SIGN 0LEFT-FACING+3 0ARMENIAN_DRAM+1 @591 0HEBREW_ACCENT_ETNAHTA
2SEGOL 2SHALSHELET 2ZAQEF_QATAN 3GADOL 2TIPEHA 2REVIA 2ZARQA 2PASHTA 2YETIV 2TEVIR 2GERESH 3MUQDAM
2GERSHAYIM 2QARNEY_PARA 2TELISHA_GEDOLA 2PAZER 2ATNAH_HAFUKH 2MUNAH 2MAHAPAKH 2MERKHA 3KEFULA
2DARGA 2QADMA 2TELISHA_QETANA 2YERAH_BEN_YOMO 2OLE 2ILUY 2DEHI 2ZINOR 1MARK_MASORA_CIRCLE
1POINT_SHEVA 2HATAF_SEGOL 3PATAH 3QAMATS 2HIRIQ 2TSERE 2SEGOL 2PATAH 2QAMATS 2HOLAM 3HASER_FOR_VAV
2QUBUTS 2DAGESH_OR_MAPIQ 2METEG 1PUNCTUATION_MAQAF 1POINT_RAFE 1PUNCTUATION_PASEQ 1POINT_SHIN_DOT
2SIN+1 1PUNCTUATION_SOF_PASUQ 1MARK_UPPER_DOT 2LOWER+1 1PUNCTUATION_NUN_HAFUKHA 1POINT_QAMATS_QATAN
@5D0 1LETTER_ALEF 2BET 2GIMEL 2DALET 2HE 2VAV 2ZAYIN 2HET 2TET 2YOD 2FINAL_KAF 2+1 2LAMED
2FINAL_MEM 2+1 2FINAL_NUN 2+1 2SAMEKH 2AYIN 2FINAL_PE 2+1 2FINAL_TSADI 2+1 2QOF 2RESH 2SHIN 2TAV
@5EF 1YOD_TRIANGLE 1LIGATURE_YIDDISH_DOUBLE_VAV 3VAV_YOD 3DOUBLE+1 1PUNCTUATION_GERESH 2GERSHAYIM
@600 0ARABIC_NUMBER_SIGN 1SIGN_SANAH 1FOOTNOTE_MARKER 1SIGN_SAFHA 2SAMVAT 1NUMBER_MARK_ABOVE
0ARABIC-INDIC_CUBE_ROOT 1FOURTH+1 0ARABIC_RAY 0ARABIC-INDIC_PER_MILLE_SIGN 2TEN_THOUSAND+1
0AFGHANI+1 0ARABIC_COMMA 1DATE_SEPARATOR 1POETIC_VERSE_SIGN 1SIGN_MISRA
2SALLALLAHOU_ALAYHE_WASSALLAM 2ALAYHE_ASSALLAM 2RAHMATULLAH_ALAYHE 2RADI_ALLAHOU_ANHU 2TAKHALLUS
1SMALL_HIGH_TAH 3LIGATURE_ALEF_WITH_LAM_WITH_YEH 3ZAIN 2FATHA 2DAMMA 2KASRA 1SEMICOLON 1LETTER_MARK
1END_OF_TEXT+1 1TRIPLE_DOT_PUNCTUATION+1 1QUESTION+1 1LETTER_KASHMIRI_YEH 2HAMZA
2ALEF_WITH_MADDA_ABOVE 4HAMZA+1 2WAW+3 2ALEF_WITH_HAMZA_BELOW 2YEH_WITH_HAMZA_ABOVE 2ALEF 2BEH
2TEH_MARBUTA 3 2THEH 2JEEM 2HAH 2KHAH 2DAL 2THAL 2REH 2ZAIN 2SEEN 2SHEEN 2SAD 2DAD 2TAH 2ZAH 2AIN
2GHAIN 2KEHEH_WITH_TWO_DOTS_ABOVE 4THREE_DOTS_BELOW 2FARSI_YEH_WITH_INVERTED_V 5TWO_DOTS_ABOVE
5THREE+2 1TATWEEL 1LETTER_FEH 2QAF 2KAF 2LAM 2MEEM 2NOON 2HEH 2WAW 2ALEF_MAKSURA 2YEH 1FATHATAN
1DAMMATAN 1KASRATAN 1FATHA 1DAMMA 1KASRA 1SHADDA 1SUKUN 1MADDAH_ABOVE 1HAMZA+1 2BELOW
1SUBSCRIPT_ALEF 1INVERTED_DAMMA 1MARK_NOON_GHUNNA 1ZWARAKAY 1VOWEL_SIGN_SMALL_V_ABOVE 3INVERTED+3
3DOT_BELOW 1REVERSED_DAMMA 1FATHA_WITH_TWO_DOTS 1WAVY_HAMZA_BELOW 0ARABIC-INDIC_DIGIT_ZERO 2ONE
2TWO 2THREE 2FOUR 2FIVE 2SIX 2SEVEN 2EIGHT 2NINE 0ARABIC_PERCENT_SIGN 1DECIMAL_SEPARATOR
1THOUSANDS+1 1FIVE_POINTED_STAR 1LETTER_DOTLESS_BEH 3QAF 2SUPERSCRIPT_ALEF 2ALEF_WASLA
3WITH_WAVY_HAMZA_ABOVE 6BELOW 2HIGH_HAMZA 4ALEF 4WAW 2U_WITH_HAMZA_ABOVE 2HIGH_HAMZA_YEH 2TTEH
2TTEHEH 2BEEH 2TEH_WITH_RING 4THREE_DOTS_ABOVE_DOWNWARDS 2PEH 2TEHEH 2BEHEH 2HAH_WITH_HAMZA_ABOVE
4TWO_DOTS_VERTICAL+1 2NYEH 2DYEH 2HAH_WITH_THREE_DOTS_ABOVE 2TCHEH 2TCHEHEH 2DDAL 2DAL_WITH_RING
4DOT_BELOW 6AND_SMALL_TAH 2DAHAL 2DDAHAL 2DUL 2DAL_WITH_THREE_DOTS_ABOVE_DOWNWARDS 4FOUR_DOTS_ABOVE
2RREH 2REH_WITH_SMALL_V 4RING 4DOT_BELOW 4SMALL_V+1 4DOT_BELOW_AND_DOT_ABOVE 4TWO_DOTS+1 2JEH
2REH_WITH_FOUR_DOTS_ABOVE 2SEEN_WITH_DOT_BELOW_AND_DOT+1 4THREE_DOTS_BELOW 7AND_THREE_DOTS_ABOVE
2SAD_WITH_TWO_DOTS_BELOW 4THREE_DOTS_ABOVE 2TAH+4 2AIN+4 2DOTLESS_FEH 2FEH_WITH_DOT_MOVED_BELOW 5+1
2VEH 2FEH_WITH_THREE_DOTS_BELOW 2PEHEH 2QAF_WITH_DOT_ABOVE 4THREE_DOTS+1 2KEHEH 2SWASH_KAF
2KAF_WITH_RING 4DOT_ABOVE 2NG 2KAF_WITH_THREE_DOTS_BELOW 2GAF 3WITH_RING 2NGOEH
2GAF_WITH_TWO_DOTS_BELOW 2GUEH 2GAF_WITH_THREE_DOTS_ABOVE 2LAM_WITH_SMALL_V 4DOT_ABOVE
4THREE_DOTS+1 6BELOW 2NOON_WITH_DOT+1 3GHUNNA 2RNOON 2NOON_WITH_RING 4THREE_DOTS_ABOVE
2HEH_DOACHASHMEE 2TCHEH_WITH_DOT_ABOVE 2HEH_WITH_YEH+1 3GOAL 4WITH_HAMZA_ABOVE 2TEH_MARBUTA_GOAL
2WAW_WITH_RING 2KIRGHIZ_OE 2+1 2U 2YU 2KIRGHIZ+1 2WAW_WITH_TWO_DOTS_ABOVE 2VE 2FARSI_YEH
2YEH_WITH_TAIL 4SMALL_V 2WAW_WITH_DOT_ABOVE 2E 2YEH_WITH_THREE_DOTS_BELOW 3BARREE 4WITH_HAMZA_ABOVE
1FULL_STOP 1LETTER_AE 1SMALL_HIGH_LIGATURE_SAD_WITH_LAM_WITH_ALEF_MAKSURA 4QAF+5 3MEEM_INITIAL_FORM
3LAM_ALEF 3JEEM 3THREE_DOTS 3SEEN 1END_OF_AYAH 1START_OF_RUB_EL_HIZB 1SMALL_HIGH_ROUNDED_ZERO
3UPRIGHT_RECTANGULAR+1 3DOTLESS_HEAD_OF_KHAH 3MEEM_ISOLATED_FORM 2LOW_SEEN 2HIGH_MADDA 2WAW 2YEH
2HIGH+1 3NOON 1PLACE_OF_SAJDAH 1EMPTY_CENTRE_LOW_STOP 3HIGH+1 1ROUNDED_HIGH_STOP_WITH_FILLED_CENTRE
1SMALL_LOW_MEEM 1LETTER_DAL_WITH_INVERTED_V 2REH+3 0EXTENDED_ARABIC-INDIC_DIGIT_ZERO 3ONE 3TWO
3THREE 3FOUR 3FIVE 3SIX 3SEVEN 3EIGHT 3NINE 0ARABIC_LETTER_SHEEN_WITH_DOT_BELOW 2DAD+3 2GHAIN+3
1SIGN_SINDHI_AMPERSAND 3POSTPOSITION_MEN 1LETTER_HEH_WITH_INVERTED_V 0SYRIAC_END_OF_PARAGRAPH
1SUPRALINEAR_FULL_STOP 1SUBLINEAR+2 1SUPRALINEAR_COLON 1SUBLINEAR+1 1HORIZONTAL+1
1COLON_SKEWED_LEFT 3RIGHT 1SUPRALINEAR_COLON_SKEWED_LEFT 1SUBLINEAR_COLON_SKEWED_RIGHT 1CONTRACTION
1HARKLEAN_OBELUS 2METOBELUS 2ASTERISCUS @70F 1ABBREVIATION_MARK 1LETTER_ALAPH 2SUPERSCRIPT+1 2BETH
2GAMAL 3GARSHUNI 2DALATH 2DOTLESS_DALATH_RISH 2HE 2WAW 2ZAIN 2HETH 2TETH 3GARSHUNI 2YUDH 3HE 2KAPH
2LAMADH 2MIM 2NUN 2SEMKATH 2FINAL+1 2E 2PE 2REVERSED+1 2SADHE 2QAPH 2RISH 2SHIN 2TAW 2PERSIAN_BHETH
3GHAMAL 3DHALATH 1PTHAHA_ABOVE 2BELOW 2DOTTED 1ZQAPHA_ABOVE 2BELOW 2DOTTED 1RBASA_ABOVE 2BELOW
1DOTTED_ZLAMA_HORIZONTAL 3ANGULAR 1HBASA_ABOVE 2BELOW 1HBASA-ESASA_DOTTED 1ESASA_ABOVE 2BELOW
1RWAHA 1FEMININE_DOT 1QUSHSHAYA 1RUKKAKHA 1TWO_VERTICAL_DOTS_ABOVE 4BELOW 1THREE_DOTS_ABOVE 3BELOW
1OBLIQUE_LINE_ABOVE 3BELOW 1MUSIC 1BARREKH @74D 1LETTER_SOGDIAN_ZHAIN 3KHAPH 3FE
0ARABIC_LETTER_BEH_WITH_THREE_DOTS_HORIZONTALLY_BELOW 4DOT_BELOW_AND_THREE_DOTS_ABOVE
4THREE_DOTS_POINTING_UPWARDS_BELOW 9AND_TWO_DOTS_ABOVE 4TWO_DOTS_BELOW_AND_DOT+1
4INVERTED_SMALL_V_BELOW 4SMALL_V 2HAH_WITH_TWO_DOTS_ABOVE 4THREE_DOTS_POINTING_UPWARDS_BELOW
2DAL_WITH_TWO_DOTS_VERTICALLY_BELOW_AND_SMALL_TAH 4INVERTED_SMALL_V_BELOW 2REH_WITH_STROKE
2SEEN_WITH_FOUR_DOTS_ABOVE 2AIN_WITH_TWO+2 4THREE_DOTS_POINTING_DOWNWARDS+1 4TWO_DOTS_VERTICALLY+1
2FEH_WITH_TWO_DOTS_BELOW 4THREE_DOTS_POINTING_UPWARDS+1 2KEHEH_WITH_DOT_ABOVE 4THREE_DOTS+1
6POINTING_UPWARDS_BELOW 2MEEM_WITH_DOT_ABOVE 5BELOW 2NOON_WITH_TWO_DOTS+1 4SMALL_TAH 5V
2LAM_WITH_BAR 2REH_WITH_TWO_DOTS_VERTICALLY_ABOVE 4HAMZA+1 2SEEN_WITH_TWO_DOTS_VERTICALLY+1
2HAH_WITH_SMALL_ARABIC_LETTER_TAH_BELOW 8AND_TWO_DOTS 2SEEN+8 2REH+8
2HAH_WITH_SMALL_ARABIC_LETTER_TAH_ABOVE 2ALEF_WITH_EXTENDED_ARABIC-INDIC_DIGIT_TWO+1 7THREE+1
2FARSI_YEH_WITH_EXTENDED_ARABIC-INDIC_DIGIT_TWO+1 8THREE+1 8FOUR_BELOW
2WAW_WITH_EXTENDED_ARABIC-INDIC_DIGIT_TWO_ABOVE 7THREE+1
2YEH_BARREE_WITH_EXTENDED_ARABIC-INDIC_DIGIT_TWO+1 8THREE+1
2HAH_WITH_EXTENDED_ARABIC-INDIC_DIGIT_FOUR_BELOW 2SEEN_WITH_EXTENDED_ARABIC-INDIC_DIGIT_FOUR_ABOVE
4INVERTED_V 2KAF_WITH_TWO_DOTS_ABOVE 0THAANA_LETTER_HAA 2SHAVIYANI 2NOONU 2RAA 2BAA 2LHAVIYANI
2KAAFU 2ALIFU 2VAAVU 2MEEMU 2FAAFU 2DHAALU 2THAA 2LAAMU 2GAAFU 2GNAVIYANI 2SEENU 2DAVIYANI
2ZAVIYANI 2TAVIYANI 2YAA 2PAVIYANI 2JAVIYANI 2CHAVIYANI 2TTAA 2HHAA 2KHAA 2THAALU 2ZAA 2SHEENU
2SAADHU 2DAADHU 2TO 2ZO 2AINU 2GHAINU 2QAAFU 2WAAVU 1ABAFILI 1AABAAFILI 1IBIFILI 1EEBEEFILI
1UBUFILI 1OOBOOFILI 1EBEFILI 1EYBEYFILI 1OBOFILI 1OABOAFILI 1SUKUN 1LETTER_NAA @7C0 0NKO_DIGIT_ZERO
2ONE 2TWO 2THREE 2FOUR 2FIVE 2SIX 2SEVEN 2EIGHT 2NINE 1LETTER_A 2EE 2I 2E 2U 2OO 2O 2DAGBASINNA 2N
2BA 2PA 2TA 2JA 2CHA 2DA 2RA 2RRA 2SA 2GBA 2FA 2KA 2LA 2NA_WOLOSO 2MA 2NYA 2NA 2HA 2WA 2YA
2NYA_WOLOSO 2JONA_JA 3CHA 3RA 1COMBINING_SHORT_HIGH_TONE 3LOW+1 3RISING+1 2LONG_DESCENDING+1
3HIGH+1 3LOW+1 3RISING+1 2NASALIZATION_MARK 2DOUBLE_DOT_ABOVE 1HIGH_TONE_APOSTROPHE 1LOW+2
1SYMBOL_OO_DENNEN 2GBAKURUNEN 1COMMA 1EXCLAMATION_MARK 1LAJANYALAN @7FD 1DANTAYALAN 1DOROME_SIGN
1TAMAN+1 0SAMARITAN_LETTER_ALAF 2BIT 2GAMAN 2DALAT 2IY 2BAA 2ZEN 2IT 2TIT 2YUT 2KAAF 2LABAT 2MIM
2NUN 2SINGAAT 2IN 2FI 2TSAADIY 2QUF 2RISH 2SHAN 2TAAF 1MARK_IN 2IN-ALAF 2OCCLUSION 2DAGESH
1MODIFIER_LETTER_EPENTHETIC_YUT 1MARK+2 1VOWEL_SIGN_LONG_E 3+1 3OVERLONG_AA 3LONG+1 3+1 3OVERLONG_A
3LONG+1 3+1 1MODIFIER_LETTER_SHORT+1 1VOWEL_SIGN+2 3LONG_U 3+1 1MODIFIER_LETTER_I
1VOWEL_SIGN_LONG+1 3+1 3O 3SUKUN 1MARK_NEQUDAA @830 1PUNCTUATION+1 2AFSAAQ 2ANGED 2BAU 2ATMAAU
2SHIYYAALAA 1ABBREVIATION_MARK 1PUNCTUATION_MELODIC_QITSA 2ZIQAA 2QITSA 2ZAEF 2TURU 2ARKAANU
2SOF_MASHFAAT 2ANNAAU @840 0MANDAIC_LETTER_HALQA 2AB 2AG 2AD 2AH 2USHENNA 2AZ 2IT 2ATT 2AKSA 2AK
2AL 2AM 2AN 2AS 2IN 2AP 2ASZ 2AQ 2AR 2ASH 2AT 2DUSHENNA 2KAD 2AIN 1AFFRICATION_MARK 1VOCALIZATION+1
1GEMINATION+1 @85E 1PUNCTUATION @860 0SYRIAC_LETTER_MALAYALAM_NGA 3JA 3NYA 3TTA 3NNA 3NNNA 3BHA 3RA
3LLA 3LLLA 3SSA @870 0ARABIC_LETTER_ALEF_WITH_ATTACHED_FATHA 5TOP_RIGHT+1 4RIGHT_MIDDLE_STROKE
4LEFT+2 4ATTACHED_KASRA 5BOTTOM_RIGHT+1 5ROUND_DOT_ABOVE 5RIGHT_ROUND_DOT 5LEFT+2 5ROUND_DOT_BELOW
4DOT_ABOVE 4ATTACHED_TOP_RIGHT_FATHA_AND+2 4RIGHT_MIDDLE_STROKE+3 4ATTACHED_BOTTOM_RIGHT_KASRA+3
5TOP_RIGHT_FATHA_AND_LEFT_RING 4RIGHT_MIDDLE_STROKE+3 4ATTACHED_BOTTOM_RIGHT_KASRA+3 5RIGHT_HAMZA
5LEFT+1 1TATWEEL_WITH_OVERSTRUCK+1 4WAW 3TWO_DOTS_BELOW 1LETTER_THIN_YEH 1BASELINE_ROUND_DOT
1RAISED+2 1LETTER_NOON_WITH_INVERTED_SMALL_V 2HAH_WITH_INVERTED_SMALL_V_BELOW 2TAH_WITH_DOT+1
4THREE_DOTS+1 2KEHEH_WITH_TWO_DOTS_VERTICALLY+1 1VERTICAL_TAIL @890 1POUND_MARK_ABOVE 1PIASTRE+2
@898 1SMALL_HIGH_WORD_AL-JUZ 2LOW_WORD_ISHMAAM 4IMAALA 4TASHEEL 1MADDA_WAAJIB
1SUPERSCRIPT_ALEF_MOKHASSAS 1DOUBLED_MADDA 1HALF_MADDA_OVER+1 1LETTER_BEH_WITH_SMALL_V_BELOW
4HAMZA_ABOVE 2JEEM_WITH_TWO_DOTS+1 2TAH+4 2FEH_WITH_DOT_BELOW_AND_THREE+2 2QAF_WITH_DOT_BELOW
2LAM_WITH_DOUBLE_BAR 2MEEM_WITH_THREE_DOTS_ABOVE 2YEH_WITH_TWO_DOTS_BELOW_AND_HAMZA+1 8DOT+1
2REH_WITH_LOOP 2WAW_WITH_DOT_WITHIN 2ROHINGYA_YEH 2LOW_ALEF 2DAL_WITH_THREE_DOTS_BELOW 2SAD+4
2GAF_WITH_INVERTED_STROKE 2STRAIGHT_WAW 2ZAIN_WITH_INVERTED_V_ABOVE 2AIN_WITH_THREE_DOTS_BELOW
2KAF_WITH_DOT+1 2QAF_WITH_DOT_BELOW_AND_NO_DOTS_ABOVE 2BEH_WITH_SMALL_MEEM+1 2PEH+4
2TEH_WITH_SMALL_TEH+1 2REH_WITH_SMALL_NOON+1 2YEH_WITH_TWO_DOTS_BELOW_AND+3 2AFRICAN_FEH 3QAF 3NOON
2PEH_WITH_SMALL_V 2TEH+3 2TTEH+3 2TCHEH+3 2KEHEH+3 2GHAIN_WITH_THREE_DOTS_ABOVE 2AFRICAN_QAF+4
2JEEM+4 6BELOW 2LAM_WITH_SMALL_ARABIC_LETTER_TAH_ABOVE 2GRAF 1SMALL_FARSI_YEH 2HIGH+2
3YEH_BARREE_WITH_TWO_DOTS_BELOW 3WORD_SAH 3ZAH 1LARGE_ROUND_DOT_ABOVE 4BELOW 1SUKUN+1
1LARGE_CIRCLE+1 2ROUND_DOT_INSIDE+2 1SMALL_LOW_WAW 2HIGH_WORD_AR-RUB 3SAD 3AIN 3QAF
3NOON_WITH_KASRA 2LOW+3 2HIGH_WORD_ATH-THALATHA 4AS-SAJDA 4AN-NISF 4SAKTA 4QIF 4WAQFA
3FOOTNOTE_MARKER 3SIGN_SAFHA 1DISPUTED_END_OF_AYAH 1TURNED_DAMMA_BELOW 1CURLY_FATHA 2DAMMA 2KASRA
2FATHATAN 2DAMMATAN 2KASRATAN 1TONE_ONE_DOT_ABOVE 2TWO_DOTS+1 2LOOP+1 2ONE_DOT_BELOW 2TWO_DOTS+1
2LOOP+1 1OPEN_FATHATAN 2DAMMATAN 2KASRATAN 1SMALL_HIGH_WAW 1FATHA_WITH_RING 3DOT_ABOVE
1KASRA_WITH_DOT_BELOW 1LEFT_ARROWHEAD_ABOVE 1RIGHT+2 1LEFT_ARROWHEAD_BELOW 1RIGHT+2
1DOUBLE_RIGHT_ARROWHEAD_ABOVE 5WITH_DOT 1+5 1DAMMA+2 1MARK_SIDEWAYS_NOON_GHUNNA
0DEVANAGARI_SIGN_INVERTED_CANDRABINDU 2+1 2ANUSVARA 2VISARGA 1LETTER_SHORT_A 2+1 2AA 2I 2II 2U 2UU
2VOCALIC_R 3L 2CANDRA_E 2SHORT+1 2+1 2AI 2CANDRA_O 2SHORT+1 2+1 2AU 2KA 2KHA 2GA 2GHA 2NGA 2CA 2CHA
2JA 2JHA 2NYA 2TTA 2TTHA 2DDA 2DDHA 2NNA 2TA 2THA 2DA 2DHA 2NA 2NNNA 2PA 2PHA 2BA 2BHA 2MA 2YA 2RA
2RRA 2LA 2LLA 2LLLA 2VA 2SHA 2SSA 2SA 2HA 1VOWEL_SIGN_OE 3OOE 1SIGN_NUKTA 2AVAGRAHA 1VOWEL_SIGN_AA
3I 3II 3U 3UU 3VOCALIC_R 4RR 3CANDRA_E 3SHORT+1 3+1 3AI 3CANDRA_O 3SHORT+1 3+1 3AU 1SIGN_VIRAMA
1VOWEL_SIGN_PRISHTHAMATRA_E 3AW 1OM 1STRESS_SIGN_UDATTA 3ANUDATTA 1GRAVE_ACCENT 1ACUTE+1
1VOWEL_SIGN_CANDRA_LONG_E 3UE 3UUE 1LETTER_QA 2KHHA 2GHHA 2ZA 2DDDHA 2RHA 2FA 2YYA 2VOCALIC_RR 3LL
1VOWEL_SIGN_VOCALIC_L 4LL 1DANDA 1DOUBLE+1 1DIGIT_ZERO 2ONE 2TWO 2THREE 2FOUR 2FIVE 2SIX 2SEVEN
2EIGHT 2NINE 1ABBREVIATION_SIGN 1SIGN_HIGH_SPACING_DOT 1LETTER_CANDRA_A 2OE 2OOE 2AW 2UE 2UUE
2MARWARI_DDA 2ZHA 2HEAVY_YA 2GGA 2JJA 2GLOTTAL_STOP 2DDDA 2BBA 0BENGALI_ANJI 1SIGN_CANDRABINDU
2ANUSVARA 2VISARGA @985 1LETTER_A 2AA 2I 2II 2U 2UU 2VOCALIC_R 3L @98F 2E 2AI @993 2O 2AU 2KA 2KHA
2GA 2GHA 2NGA 2CA 2CHA 2JA 2JHA 2NYA 2TTA 2TTHA 2DDA 2DDHA 2NNA 2TA 2THA 2DA 2DHA 2NA @9AA 2PA 2PHA
2BA 2BHA 2MA 2YA 2RA @9B2 2LA @9B6 2SHA 2SSA 2SA 2HA @9BC 1SIGN_NUKTA 2AVAGRAHA 1VOWEL_SIGN_AA 3I
3II 3U 3UU 3VOCALIC_R 4RR @9C7 3E 3AI @9CB 3O 3AU 1SIGN_VIRAMA 1LETTER_KHANDA_TA @9D7
1AU_LENGTH_MARK @9DC 1LETTER_RRA 2RHA @9DF 2YYA 2VOCALIC_RR 3LL 1VOWEL_SIGN_VOCALIC_L 4LL @9E6
1DIGIT_ZERO 2ONE 2TWO 2THREE 2FOUR 2FIVE 2SIX 2SEVEN 2EIGHT 2NINE 1LETTER_RA_WITH_MIDDLE_DIAGONAL
4LOWER+1 1RUPEE_MARK 2SIGN 1CURRENCY_NUMERATOR_ONE 3TWO 3THREE 3FOUR 3ONE_LESS_THAN_THE_DENOMINATOR
2DENOMINATOR_SIXTEEN 1ISSHAR 1GANDA_MARK 1LETTER_VEDIC_ANUSVARA 1ABBREVIATION_SIGN 1SANDHI_MARK
@A01 0GURMUKHI_SIGN_ADAK_BINDI 2+1 2VISARGA @A05 1LETTER_A 2AA 2I 2II 2U 2UU @A0F 2EE 2AI @A13 2OO
2AU 2KA 2KHA 2GA 2GHA 2NGA 2CA 2CHA 2JA 2JHA 2NYA 2TTA 2TTHA 2DDA 2DDHA 2NNA 2TA 2THA 2DA 2DHA 2NA
@A2A 2PA 2PHA 2BA 2BHA 2MA 2YA 2RA @A32 2LA 2LLA @A35 2VA 2SHA @A38 2SA 2HA @A3C 1SIGN_NUKTA @A3E
1VOWEL_SIGN_AA 3I 3II 3U 3UU @A47 3EE 3AI @A4B 3OO 3AU 1SIGN_VIRAMA @A51 2UDAAT @A59 1LETTER_KHHA
2GHHA 2ZA 2RRA @A5E 2FA @A66 1DIGIT_ZERO 2ONE 2TWO 2THREE 2FOUR 2FIVE 2SIX 2SEVEN 2EIGHT 2NINE
1TIPPI 1ADDAK 1IRI 1URA 1EK_ONKAR 1SIGN_YAKASH 1ABBREVIATION_SIGN @A81 0GUJARATI_SIGN_CANDRABINDU
2ANUSVARA 2VISARGA @A85 1LETTER_A 2AA 2I 2II 2U 2UU 2VOCALIC_R 3L 1VOWEL_CANDRA_E @A8F 1LETTER+1
2AI 1VOWEL_CANDRA_O @A93 1LETTER+1 2AU 2KA 2KHA 2GA 2GHA 2NGA 2CA 2CHA 2JA 2JHA 2NYA 2TTA 2TTHA
2DDA 2DDHA 2NNA 2TA 2THA 2DA 2DHA 2NA @AAA 2PA 2PHA 2BA 2BHA 2MA 2YA 2RA @AB2 2LA 2LLA @AB5 2VA
2SHA 2SSA 2SA 2HA @ABC 1SIGN_NUKTA 2AVAGRAHA 1VOWEL_SIGN_AA 3I 3II 3U 3UU 3VOCALIC_R 4RR 3CANDRA_E
@AC7 3+1 3AI 3CANDRA_O @ACB 3+1 3AU 1SIGN_VIRAMA @AD0 1OM @AE0 1LETTER_VOCALIC_RR 3LL
1VOWEL_SIGN_VOCALIC_L 4LL @AE6 1DIGIT_ZERO 2ONE 2TWO 2THREE 2FOUR 2FIVE 2SIX 2SEVEN 2EIGHT 2NINE
1ABBREVIATION_SIGN 1RUPEE+1 @AF9 1LETTER_ZHA 1SIGN_SUKUN 2SHADDA 2MADDAH 2THREE-DOT_NUKTA_ABOVE
2CIRCLE+2 2TWO-CIRCLE+2 @B01 0ORIYA_SIGN_CANDRABINDU 2ANUSVARA 2VISARGA @B05 1LETTER_A 2AA 2I 2II
2U 2UU 2VOCALIC_R 3L @B0F 2E 2AI @B13 2O 2AU 2KA 2KHA 2GA 2GHA 2NGA 2CA 2CHA 2JA 2JHA 2NYA 2TTA
2TTHA 2DDA 2DDHA 2NNA 2TA 2THA 2DA 2DHA 2NA @B2A 2PA 2PHA 2BA 2BHA 2MA 2YA 2RA @B32 2LA 2LLA @B35
2VA 2SHA 2SSA 2SA 2HA @B3C 1SIGN_NUKTA 2AVAGRAHA 1VOWEL_SIGN_AA 3I 3II 3U 3UU 3VOCALIC_R 4RR @B47
3E 3AI @B4B 3O 3AU 1SIGN_VIRAMA @B55 2OVERLINE 1AI_LENGTH_MARK 1AU+2 @B5C 1LETTER_RRA 2RHA @B5F
2YYA 2VOCALIC_RR 3LL 1VOWEL_SIGN_VOCALIC_L 4LL @B66 1DIGIT_ZERO 2ONE 2TWO 2THREE 2FOUR 2FIVE 2SIX
2SEVEN 2EIGHT 2NINE 1ISSHAR 1LETTER_WA 1FRACTION_ONE_QUARTER 3HALF 2THREE_QUARTERS 2ONE_SIXTEENTH
3EIGHTH 2THREE_SIXTEENTHS @B82 0TAMIL_SIGN_ANUSVARA 2VISARGA @B85 1LETTER_A 2AA 2I 2II 2U 2UU @B8E
2E 2EE 2AI @B92 2O 2OO 2AU 2KA @B99 2NGA 2CA @B9C 2JA @B9E 2NYA 2TTA @BA3 2NNA 2TA @BA8 2NA 2NNNA
2PA @BAE 2MA 2YA 2RA 2RRA 2LA 2LLA 2LLLA 2VA 2SHA 2SSA 2SA 2HA @BBE 1VOWEL_SIGN_AA 3I 3II 3U 3UU
@BC6 3E 3EE 3AI @BCA 3O 3OO 3AU 1SIGN_VIRAMA @BD0 1OM @BD7 1AU_LENGTH_MARK @BE6 1DIGIT_ZERO 2ONE
2TWO 2THREE 2FOUR 2FIVE 2SIX 2SEVEN 2EIGHT 2NINE 1NUMBER_TEN 2ONE_HUNDRED 3THOUSAND 1DAY_SIGN
1MONTH+1 1YEAR+1 1DEBIT+1 1CREDIT+1 1AS_ABOVE+1 1RUPEE+1 1NUMBER+1 @C00
0TELUGU_SIGN_COMBINING_CANDRABINDU_ABOVE 2CANDRABINDU 2ANUSVARA 2VISARGA 2COMBINING_ANUSVARA_ABOVE
1LETTER_A 2AA 2I 2II 2U 2UU 2VOCALIC_R 3L @C0E 2E 2EE 2AI @C12 2O 2OO 2AU 2KA 2KHA 2GA 2GHA 2NGA
2CA 2CHA 2JA 2JHA 2NYA 2TTA 2TTHA 2DDA 2DDHA 2NNA 2TA 2THA 2DA 2DHA 2NA @C2A 2PA 2PHA 2BA 2BHA 2MA
2YA 2RA 2RRA 2LA 2LLA 2LLLA 2VA 2SHA 2SSA 2SA 2HA @C3C 1SIGN_NUKTA 2AVAGRAHA 1VOWEL_SIGN_AA 3I 3II
3U 3UU 3VOCALIC_R 4RR @C46 3E 3EE 3AI @C4A 3O 3OO 3AU 1SIGN_VIRAMA @C55 1LENGTH_MARK 1AI+2 @C58
1LETTER_TSA 2DZA 2RRRA @C5D 2NAKAARA_POLLU @C60 2VOCALIC_RR 3LL 1VOWEL_SIGN_VOCALIC_L 4LL @C66
1DIGIT_ZERO 2ONE 2TWO 2THREE 2FOUR 2FIVE 2SIX 2SEVEN 2EIGHT 2NINE @C77 1SIGN_SIDDHAM
1FRACTION_DIGIT_ZERO_FOR_ODD_POWERS_OF_FOUR 3ONE+5 3TWO+5 3THREE+5 3ONE_FOR_EVEN+3 3TWO+5 3THREE+5
1SIGN_TUUMU 0KANNADA_SIGN_SPACING_CANDRABINDU 2+1 2ANUSVARA 2VISARGA 2SIDDHAM 1LETTER_A 2AA 2I 2II
2U 2UU 2VOCALIC_R 3L @C8E 2E 2EE 2AI @C92 2O 2OO 2AU 2KA 2KHA 2GA 2GHA 2NGA 2CA 2CHA 2JA 2JHA 2NYA
2TTA 2TTHA 2DDA 2DDHA 2NNA 2TA 2THA 2DA 2DHA 2NA @CAA 2PA 2PHA 2BA 2BHA 2MA 2YA 2RA 2RRA 2LA 2LLA
@CB5 2VA 2SHA 2SSA 2SA 2HA @CBC 1SIGN_NUKTA 2AVAGRAHA 1VOWEL_SIGN_AA 3I 3II 3U 3UU 3VOCALIC_R 4RR
@CC6 3E 3EE 3AI @CCA 3O 3OO 3AU 1SIGN_VIRAMA @CD5 1LENGTH_MARK 1AI+2 @CDD 1LETTER_NAKAARA_POLLU 2FA
@CE0 2VOCALIC_RR 3LL 1VOWEL_SIGN_VOCALIC_L 4LL @CE6 1DIGIT_ZERO 2ONE 2TWO 2THREE 2FOUR 2FIVE 2SIX
2SEVEN 2EIGHT 2NINE @CF1 1SIGN_JIHVAMULIYA 2UPADHMANIYA @D00
0MALAYALAM_SIGN_COMBINING_ANUSVARA_ABOVE 2CANDRABINDU 2ANUSVARA 2VISARGA 1LETTER_VEDIC_ANUSVARA 2A
2AA 2I 2II 2U 2UU 2VOCALIC_R 3L @D0E 2E 2EE 2AI @D12 2O 2OO 2AU 2KA 2KHA 2GA 2GHA 2NGA 2CA 2CHA 2JA
2JHA 2NYA 2TTA 2TTHA 2DDA 2DDHA 2NNA 2TA 2THA 2DA 2DHA 2NA 2NNNA 2PA 2PHA 2BA 2BHA 2MA 2YA 2RA 2RRA
2LA 2LLA 2LLLA 2VA 2SHA 2SSA 2SA 2HA 2TTTA 1SIGN_VERTICAL_BAR_VIRAMA 2CIRCULAR+1 2AVAGRAHA
1VOWEL_SIGN_AA 3I 3II 3U 3UU 3VOCALIC_R 4RR @D46 3E 3EE 3AI @D4A 3O 3OO 3AU 1SIGN_VIRAMA
1LETTER_DOT_REPH 1SIGN_PARA @D54 1LETTER_CHILLU_M 3Y 3LLL 1AU_LENGTH_MARK
1FRACTION_ONE_ONE-HUNDRED-AND-SIXTIETH 3FORTIETH 2THREE_EIGHTIETHS 2ONE_TWENTIETH 3TENTH
2THREE_TWENTIETHS 2ONE_FIFTH 1LETTER_ARCHAIC_II 2VOCALIC_RR 3LL 1VOWEL_SIGN_VOCALIC_L 4LL @D66
1DIGIT_ZERO 2ONE 2TWO 2THREE 2FOUR 2FIVE 2SIX 2SEVEN 2EIGHT 2NINE 1NUMBER_TEN 2ONE_HUNDRED
3THOUSAND 1FRACTION_ONE_QUARTER 3HALF 2THREE_QUARTERS 2ONE_SIXTEENTH 3EIGHTH 2THREE_SIXTEENTHS
1DATE_MARK 1LETTER_CHILLU_NN 3N 3RR 3L 3LL 3K @D81 0SINHALA_SIGN_CANDRABINDU 2ANUSVARAYA 2VISARGAYA
@D85 1LETTER_AYANNA 2AAYANNA 2AEYANNA 2AEEYANNA 2IYANNA 2IIYANNA 2UYANNA 2UUYANNA 2IRUYANNA
2IRUUYANNA 2ILUYANNA 2ILUUYANNA 2EYANNA 2EEYANNA 2AIYANNA 2OYANNA 2OOYANNA 2AUYANNA @D9A
2ALPAPRAANA_KAYANNA 2MAHAAPRAANA+1 2ALPAPRAANA_GAYANNA 2MAHAAPRAANA+1 2KANTAJA_NAASIKYAYA
2SANYAKA_GAYANNA 2ALPAPRAANA_CAYANNA 2MAHAAPRAANA+1 2ALPAPRAANA_JAYANNA 2MAHAAPRAANA+1
2TAALUJA_NAASIKYAYA 3SANYOOGA_NAAKSIKYAYA 2SANYAKA_JAYANNA 2ALPAPRAANA_TTAYANNA 2MAHAAPRAANA+1
2ALPAPRAANA_DDAYANNA 2MAHAAPRAANA+1 2MUURDHAJA_NAYANNA 2SANYAKA_DDAYANNA 2ALPAPRAANA_TAYANNA
2MAHAAPRAANA+1 2ALPAPRAANA_DAYANNA 2MAHAAPRAANA+1 2DANTAJA_NAYANNA @DB3 2SANYAKA_DAYANNA
2ALPAPRAANA_PAYANNA 2MAHAAPRAANA+1 2ALPAPRAANA_BAYANNA 2MAHAAPRAANA+1 2MAYANNA 2AMBA_BAYANNA
2YAYANNA 2RAYANNA @DBD 2DANTAJA_LAYANNA @DC0 2VAYANNA 2TAALUJA_SAYANNA 2MUURDHAJA+1 2DANTAJA+1
2HAYANNA 2MUURDHAJA_LAYANNA 2FAYANNA @DCA 1SIGN_AL-LAKUNA @DCF 1VOWEL_SIGN_AELA-PILLA
3KETTI_AEDA-PILLA 3DIGA+1 3KETTI_IS-PILLA 3DIGA+1 3KETTI_PAA-PILLA @DD6 3DIGA+1 @DD8 3GAETTA-PILLA
3KOMBUVA 3DIGA+1 3KOMBU_DEKA 3KOMBUVA_HAA_AELA-PILLA 5DIGA+1 5GAYANUKITTA 3+1 @DE6 1LITH_DIGIT_ZERO
3ONE 3TWO 3THREE 3FOUR 3FIVE 3SIX 3SEVEN 3EIGHT 3NINE @DF2 1VOWEL_SIGN_DIGA_GAETTA-PILLA
4GAYANUKITTA 1PUNCTUATION_KUNDDALIYA @E01 0THAI_CHARACTER_KO_KAI 2KHO_KHAI 3KHUAT 3KHWAI 3KHON
3RAKHANG 2NGO_NGU 2CHO_CHAN 3CHING 3CHANG 2SO_SO 2CHO_CHOE 2YO_YING 2DO_CHADA 2TO_PATAK 2THO_THAN
3NANGMONTHO 3PHUTHAO 2NO_NEN 2DO_DEK 2TO_TAO 2THO_THUNG 3THAHAN 3THONG 2NO_NU 2BO_BAIMAI 2PO_PLA
2PHO_PHUNG 2FO_FA 2PHO_PHAN 2FO_FAN 2PHO_SAMPHAO 2MO_MA 2YO_YAK 2RO_RUA 2RU 2LO_LING 2LU 2WO_WAEN
2SO_SALA 3RUSI 3SUA 2HO_HIP 2LO_CHULA 2O_ANG 2HO_NOKHUK 2PAIYANNOI 2SARA_A 2MAI_HAN-AKAT 2SARA_AA
3AM 3I 3II 3UE 3UEE 3U 3UU 2PHINTHU @E3F 1CURRENCY_SYMBOL_BAHT 1CHARACTER_SARA_E 3AE 3O 3AI_MAIMUAN
4MAIMALAI 2LAKKHANGYAO 2MAIYAMOK 2MAITAIKHU 2MAI_EK 3THO 3TRI 3CHATTAWA 2THANTHAKHAT 2NIKHAHIT
2YAMAKKAN 2FONGMAN 1DIGIT_ZERO 2ONE 2TWO 2THREE 2FOUR 2FIVE 2SIX 2SEVEN 2EIGHT 2NINE
1CHARACTER_ANGKHANKHU 2KHOMUT @E81 0LAO_LETTER_KO 2KHO_SUNG @E84 3TAM @E86 2PALI_GHA 2NGO 2CO
2PALI_CHA 2SO_TAM @E8C 2PALI_JHA 2NYO 2PALI_NYA 3TTA 3TTHA 3DDA 3DDHA 3NNA 2DO 2TO 2THO_SUNG 3TAM
2PALI_DHA 2NO 2BO 2PO 2PHO_SUNG 2FO_TAM 2PHO+1 2FO_SUNG 2PALI_BHA 2MO 2YO 2LO_LING @EA5 3LOOT @EA7
2WO 2SANSKRIT_SHA 3SSA 2SO_SUNG 2HO+1 2PALI_LLA 2O 2HO_TAM 1ELLIPSIS 1VOWEL_SIGN_A 3MAI_KAN 3AA 3AM
3I 3II 3Y 3YY 3U 3UU 1SIGN_PALI_VIRAMA 1VOWEL_SIGN_MAI_KON 1SEMIVOWEL_SIGN_LO 3NYO @EC0
1VOWEL_SIGN_E 3EI 3O 3AY 3AI @EC6 1KO_LA @EC8 1TONE_MAI_EK 3THO 3TI 3CATAWA 1CANCELLATION_MARK
1NIGGAHITA @ED0 1DIGIT_ZERO 2ONE 2TWO 2THREE 2FOUR 2FIVE 2SIX 2SEVEN 2EIGHT 2NINE @EDC 1HO_NO 2MO
1LETTER_KHMU_GO 3NYO @F00 0TIBETAN_SYLLABLE_OM 1MARK_GTER_YIG_MGO_TRUNCATED_A 5-UM_RNAM_BCAD_MA
6GTER_TSHEG+1 2INITIAL_YIG_MGO_MDUN+1 2CLOSING_YIG_MGO_SGAB+1 2CARET_YIG_MGO_PHUR_SHAD+1
2YIG_MGO_TSHEG+2 2SBRUL_SHAD 2BSKUR_YIG_MGO 2BKA-_SHOG+2 2INTERSYLLABIC_TSHEG
2DELIMITER_TSHEG_BSTAR 2SHAD 2NYIS+1 2TSHEG+1 2NYIS+2 2RIN_CHEN_SPUNGS+1 2RGYA_GRAM+1
2CARET_-DZUD_RTAGS_ME_LONG_CAN 2GTER_TSHEG 1LOGOTYPE_SIGN_CHAD_RTAGS 3LHAG+1
1ASTROLOGICAL_SIGN_SGRA_GCAN_-CHAR+1 3-KHYUD_PA 3SDONG_TSHUGS 1SIGN_RDEL_DKAR_GCIG 4GNYIS 4GSUM
3NAG_GCIG 4GNYIS 3DKAR_RDEL_NAG 1DIGIT_ZERO 2ONE 2TWO 2THREE 2FOUR 2FIVE 2SIX 2SEVEN 2EIGHT 2NINE
2HALF_ONE 3TWO 3THREE 3FOUR 3FIVE 3SIX 3SEVEN 3EIGHT 3NINE 3ZERO 1MARK_BSDUS_RTAGS
2NGAS_BZUNG_NYI_ZLA 2CARET_-DZUD_RTAGS_BZHI_MIG_CAN 2NGAS_BZUNG_SGOR_RTAGS 2CHE_MGO 2TSA_-PHRU
2GUG_RTAGS_GYON 4GYAS 2ANG_KHANG_GYON 4GYAS 1SIGN_YAR_TSHES 2MAR+1 1LETTER_KA 2KHA 2GA 2GHA 2NGA
2CA 2CHA 2JA @F49 2NYA 2TTA 2TTHA 2DDA 2DDHA 2NNA 2TA 2THA 2DA 2DHA 2NA 2PA 2PHA 2BA 2BHA 2MA 2TSA
2TSHA 2DZA 2DZHA 2WA 2ZHA 2ZA 2-A 2YA 2RA 2LA 2SHA 2SSA 2SA 2HA 2A 2KSSA 2FIXED-FORM_RA 2KKA 2RRA
@F71 1VOWEL_SIGN_AA 3I 3II 3U 3UU 3VOCALIC_R 4RR 4L 4LL 3E 3EE 3O 3OO 1SIGN_RJES_SU_NGA_RO
2RNAM_BCAD 1VOWEL_SIGN_REVERSED_I 4II 1SIGN_NYI_ZLA_NAA_DA 2SNA_LDAN 1MARK_HALANTA 2PALUTA
1SIGN_LCI_RTAGS 2YANG+1 2LCE_TSA_CAN 2MCHU+1 2GRU_CAN_RGYINGS 3MED+1 2INVERTED_MCHU_CAN
1SUBJOINED_SIGN_LCE_TSA+1 3MCHU+1 3INVERTED+2 2LETTER_KA 3KHA 3GA 3GHA 3NGA 3CA 3CHA 3JA @F99 3NYA
3TTA 3TTHA 3DDA 3DDHA 3NNA 3TA 3THA 3DA 3DHA 3NA 3PA 3PHA 3BA 3BHA 3MA 3TSA 3TSHA 3DZA 3DZHA 3WA
3ZHA 3ZA 3-A 3YA 3RA 3LA 3SHA 3SSA 3SA 3HA 3A 3KSSA 3FIXED-FORM_WA 4YA 4RA @FBE 1KU_RU_KHA
4BZHI_MIG_CAN 1CANTILLATION_SIGN_HEAVY_BEAT 3LIGHT+1 3CANG_TE-U 3SBUB_-CHAL 1SYMBOL_DRIL_BU
2RDO_RJE 2PADMA_GDAN 2RDO_RJE_RGYA_GRAM 2PHUR_PA 2NOR_BU 4NYIS_-KHYIL 4GSUM+1 4BZHI+1 @FCE
1SIGN_RDEL_NAG_RDEL_DKAR 4GSUM 1MARK_BSKA-_SHOG_GI_MGO_RGYAN 2MNYAM_YIG+3 2NYIS_TSHEG
2INITIAL_BRDA_RNYING_YIG_MGO_MDUN_MA 2CLOSING_BRDA_RNYING_YIG_MGO_SGAB+1 0RIGHT-FACING_SVASTI_SIGN
0LEFT-FACING+2 0RIGHT-FACING_SVASTI_SIGN_WITH_DOTS 0LEFT-FACING+4 0TIBETAN_MARK_LEADING_MCHAN_RTAGS
2TRAILING+2 @1000 0MYANMAR_LETTER_KA 2KHA 2GA 2GHA 2NGA 2CA 2CHA 2JA 2JHA 2NYA 2NNYA 2TTA 2TTHA
2DDA 2DDHA 2NNA 2TA 2THA 2DA 2DHA 2NA 2PA 2PHA 2BA 2BHA 2MA 2YA 2RA 2LA 2WA 2SA 2HA 2LLA 2A 2SHAN+1
2I 2II 2U 2UU 2E 2MON+1 2O 2AU 1VOWEL_SIGN_TALL_AA 3+1 3I 3II 3U 3UU 3E 3AI 3MON_II 4O 3E_ABOVE
1SIGN_ANUSVARA 2DOT_BELOW 2VISARGA 2VIRAMA 2ASAT 1CONSONANT_SIGN_MEDIAL_YA 4RA 4WA 4HA
1LETTER_GREAT_SA 1DIGIT_ZERO 2ONE 2TWO 2THREE 2FOUR 2FIVE 2SIX 2SEVEN 2EIGHT 2NINE
1SIGN_LITTLE_SECTION 2+1 1SYMBOL_LOCATIVE 2COMPLETED 2AFOREMENTIONED 2GENITIVE 1LETTER_SHA 2SSA
2VOCALIC_R 3RR 3L 3LL 1VOWEL_SIGN_VOCALIC_R 4RR 4L 4LL 1LETTER_MON_NGA 3JHA 3BBA 3BBE
1CONSONANT_SIGN_MON_MEDIAL_NA 5MA 5LA 1LETTER_SGAW_KAREN_SHA 1VOWEL_SIGN_SGAW_KAREN_EU
1TONE_MARK_SGAW_KAREN_HATHI 5KE_PHO 1LETTER_WESTERN_PWO_KAREN_THA 5PWA
1VOWEL_SIGN_WESTERN_PWO_KAREN_EU 6UE 1SIGN_WESTERN_PWO_KAREN_TONE-1 5TONE-2 5TONE-3 5TONE-4 5TONE-5
1LETTER_EASTERN_PWO_KAREN_NNA 5YWA 5GHWA 1VOWEL_SIGN_GEBA_KAREN_I 3KAYAH_OE 4U 4EE 1LETTER_SHAN_KA
3KHA 3GA 3CA 3ZA 3NYA 3DA 3NA 3PHA 3FA 3BA 3THA 3HA 1CONSONANT_SIGN_SHAN_MEDIAL_WA
1VOWEL_SIGN_SHAN_AA 4E 5ABOVE 4FINAL_Y 1SIGN_SHAN_TONE-2 3TONE-3 3TONE-5 3TONE-6 3COUNCIL_TONE-2
4TONE-3 4EMPHATIC_TONE 1LETTER_RUMAI_PALAUNG_FA 1SIGN_RUMAI_PALAUNG_TONE-5 1SHAN_DIGIT_ZERO 3ONE
3TWO 3THREE 3FOUR 3FIVE 3SIX 3SEVEN 3EIGHT 3NINE 1SIGN_KHAMTI_TONE-1 3TONE-3 1VOWEL_SIGN_AITON_A
4AI 1SYMBOL_SHAN_ONE 3EXCLAMATION 0GEORGIAN_CAPITAL_LETTER_AN 3BAN 3GAN 3DON 3EN 3VIN 3ZEN 3TAN 3IN
3KAN 3LAS 3MAN 3NAR 3ON 3PAR 3ZHAR 3RAE 3SAN 3TAR 3UN 3PHAR 3KHAR 3GHAN 3QAR 3SHIN 3CHIN 3CAN 3JIL
3CIL 3CHAR 3XAN 3JHAN 3HAE 3HE 3HIE 3WE 3HAR 3HOE @10C7 3YN @10CD 3AEN @10D0 1LETTER_AN 2BAN 2GAN
2DON 2EN 2VIN 2ZEN 2TAN 2IN 2KAN 2LAS 2MAN 2NAR 2ON 2PAR 2ZHAR 2RAE 2SAN 2TAR 2UN 2PHAR 2KHAR 2GHAN
2QAR 2SHIN 2CHIN 2CAN 2JIL 2CIL 2CHAR 2XAN 2JHAN 2HAE 2HE 2HIE 2WE 2HAR 2HOE 2FI 2YN 2ELIFI
2TURNED_GAN 2AIN 1PARAGRAPH_SEPARATOR 0MODIFIER_LETTER_GEORGIAN_NAR 0GEORGIAN_LETTER_AEN 2HARD_SIGN
2LABIAL+1 0HANGUL_CHOSEONG_KIYEOK 2SSANGKIYEOK 2NIEUN 2TIKEUT 2SSANGTIKEUT 2RIEUL 2MIEUM 2PIEUP
2SSANGPIEUP 2SIOS 2SSANGSIOS 2IEUNG 2CIEUC 2SSANGCIEUC 2CHIEUCH 2KHIEUKH 2THIEUTH 2PHIEUPH 2HIEUH
2NIEUN-KIYEOK 2SSANGNIEUN 2NIEUN-TIKEUT 2NIEUN-PIEUP 2TIKEUT-KIYEOK 2RIEUL-NIEUN 2SSANGRIEUL
2RIEUL-HIEUH 2KAPYEOUNRIEUL 2MIEUM-PIEUP 2KAPYEOUNMIEUM 2PIEUP-KIYEOK 2PIEUP-NIEUN 2PIEUP-TIKEUT
2PIEUP-SIOS 2PIEUP-SIOS-KIYEOK 2PIEUP-SIOS-TIKEUT 2PIEUP-SIOS-PIEUP 2PIEUP-SSANGSIOS
2PIEUP-SIOS-CIEUC 2PIEUP-CIEUC 2PIEUP-CHIEUCH 2PIEUP-THIEUTH 2PIEUP-PHIEUPH 2KAPYEOUNPIEUP
2KAPYEOUNSSANGPIEUP 2SIOS-KIYEOK 2SIOS-NIEUN 2SIOS-TIKEUT 2SIOS-RIEUL 2SIOS-MIEUM 2SIOS-PIEUP
2SIOS-PIEUP-KIYEOK 2SIOS-SSANGSIOS 2SIOS-IEUNG 2SIOS-CIEUC 2SIOS-CHIEUCH 2SIOS-KHIEUKH
2SIOS-THIEUTH 2SIOS-PHIEUPH 2SIOS-HIEUH 2CHITUEUMSIOS 2CHITUEUMSSANGSIOS 2CEONGCHIEUMSIOS
2CEONGCHIEUMSSANGSIOS 2PANSIOS 2IEUNG-KIYEOK 2IEUNG-TIKEUT 2IEUNG-MIEUM 2IEUNG-PIEUP 2IEUNG-SIOS
2IEUNG-PANSIOS 2SSANGIEUNG 2IEUNG-CIEUC 2IEUNG-CHIEUCH 2IEUNG-THIEUTH 2IEUNG-PHIEUPH 2YESIEUNG
2CIEUC-IEUNG 2CHITUEUMCIEUC 2CHITUEUMSSANGCIEUC 2CEONGCHIEUMCIEUC 2CEONGCHIEUMSSANGCIEUC
2CHIEUCH-KHIEUKH 2CHIEUCH-HIEUH 2CHITUEUMCHIEUCH 2CEONGCHIEUMCHIEUCH 2PHIEUPH-PIEUP
2KAPYEOUNPHIEUPH 2SSANGHIEUH 2YEORINHIEUH 2KIYEOK-TIKEUT 2NIEUN-SIOS 2NIEUN-CIEUC 2NIEUN-HIEUH
2TIKEUT-RIEUL 2FILLER 1JUNGSEONG+1 2A 2AE 2YA 2YAE 2EO 2E 2YEO 2YE 2O 2WA 2WAE 2OE 2YO 2U 2WEO 2WE
2WI 2YU 2EU 2YI 2I 2A-O 2A-U 2YA-O 2YA-YO 2EO-O 2EO-U 2EO-EU 2YEO-O 2YEO-U 2O-EO 2O-E 2O-YE 2O-O
2O-U 2YO-YA 2YO-YAE 2YO-YEO 2YO-O 2YO-I 2U-A 2U-AE 2U-EO-EU 2U-YE 2U-U 2YU-A 2YU-EO 2YU-E 2YU-YEO
2YU-YE 2YU-U 2YU-I 2EU-U 2EU-EU 2YI-U 2I-A 2I-YA 2I-O 2I-U 2I-EU 2I-ARAEA 2ARAEA 2ARAEA-EO 2ARAEA-U
2ARAEA-I 2SSANGARAEA 2A-EU 2YA-U 2YEO-YA 2O-YA 2O-YAE 1JONGSEONG_KIYEOK 2SSANGKIYEOK 2KIYEOK-SIOS
2NIEUN 2NIEUN-CIEUC 2NIEUN-HIEUH 2TIKEUT 2RIEUL 2RIEUL-KIYEOK 2RIEUL-MIEUM 2RIEUL-PIEUP 2RIEUL-SIOS
2RIEUL-THIEUTH 2RIEUL-PHIEUPH 2RIEUL-HIEUH 2MIEUM 2PIEUP 2PIEUP-SIOS 2SIOS 2SSANGSIOS 2IEUNG 2CIEUC
2CHIEUCH 2KHIEUKH 2THIEUTH 2PHIEUPH 2HIEUH 2KIYEOK-RIEUL 2KIYEOK-SIOS-KIYEOK 2NIEUN-KIYEOK
2NIEUN-TIKEUT 2NIEUN-SIOS 2NIEUN-PANSIOS 2NIEUN-THIEUTH 2TIKEUT-KIYEOK 2TIKEUT-RIEUL
2RIEUL-KIYEOK-SIOS 2RIEUL-NIEUN 2RIEUL-TIKEUT 2RIEUL-TIKEUT-HIEUH 2SSANGRIEUL 2RIEUL-MIEUM-KIYEOK
2RIEUL-MIEUM-SIOS 2RIEUL-PIEUP-SIOS 2RIEUL-PIEUP-HIEUH 2RIEUL-KAPYEOUNPIEUP 2RIEUL-SSANGSIOS
2RIEUL-PANSIOS 2RIEUL-KHIEUKH 2RIEUL-YEORINHIEUH 2MIEUM-KIYEOK 2MIEUM-RIEUL 2MIEUM-PIEUP
2MIEUM-SIOS 2MIEUM-SSANGSIOS 2MIEUM-PANSIOS 2MIEUM-CHIEUCH 2MIEUM-HIEUH 2KAPYEOUNMIEUM 2PIEUP-RIEUL
2PIEUP-PHIEUPH 2PIEUP-HIEUH 2KAPYEOUNPIEUP 2SIOS-KIYEOK 2SIOS-TIKEUT 2SIOS-RIEUL 2SIOS-PIEUP
2PANSIOS 2IEUNG-KIYEOK 2IEUNG-SSANGKIYEOK 2SSANGIEUNG 2IEUNG-KHIEUKH 2YESIEUNG 2YESIEUNG-SIOS
2YESIEUNG-PANSIOS 2PHIEUPH-PIEUP 2KAPYEOUNPHIEUPH 2HIEUH-NIEUN 2HIEUH-RIEUL 2HIEUH-MIEUM
2HIEUH-PIEUP 2YEORINHIEUH 2KIYEOK-NIEUN 2KIYEOK-PIEUP 2KIYEOK-CHIEUCH 2KIYEOK-KHIEUKH 2KIYEOK-HIEUH
2SSANGNIEUN 0ETHIOPIC_SYLLABLE_HA 2HU 2HI 2HAA 2HEE 2HE 2HO 2HOA 2LA 2LU 2LI 2LAA 2LEE 2LE 2LO 2LWA
2HHA 2HHU 2HHI 2HHAA 2HHEE 2HHE 2HHO 2HHWA 2MA 2MU 2MI 2MAA 2MEE 2ME 2MO 2MWA 2SZA 2SZU 2SZI 2SZAA
2SZEE 2SZE 2SZO 2SZWA 2RA 2RU 2RI 2RAA 2REE 2RE 2RO 2RWA 2SA 2SU 2SI 2SAA 2SEE 2SE 2SO 2SWA 2SHA
2SHU 2SHI 2SHAA 2SHEE 2SHE 2SHO 2SHWA 2QA 2QU 2QI 2QAA 2QEE 2QE 2QO 2QOA 2QWA @124A 2QWI 2QWAA
2QWEE 2QWE @1250 2QHA 2QHU 2QHI 2QHAA 2QHEE 2QHE 2QHO @1258 2QHWA @125A 2QHWI 2QHWAA 2QHWEE 2QHWE
@1260 2BA 2BU 2BI 2BAA 2BEE 2BE 2BO 2BWA 2VA 2VU 2VI 2VAA 2VEE 2VE 2VO 2VWA 2TA 2TU 2TI 2TAA 2TEE
2TE 2TO 2TWA 2CA 2CU 2CI 2CAA 2CEE 2CE 2CO 2CWA 2XA 2XU 2XI 2XAA 2XEE 2XE 2XO 2XOA 2XWA @128A 2XWI
2XWAA 2XWEE 2XWE @1290 2NA 2NU 2NI 2NAA 2NEE 2NE 2NO 2NWA 2NYA 2NYU 2NYI 2NYAA 2NYEE 2NYE 2NYO
2NYWA 2GLOTTAL_A 3U 3I 3AA 3EE 3E 3O 3WA 2KA 2KU 2KI 2KAA 2KEE 2KE 2KO 2KOA 2KWA @12B2 2KWI 2KWAA
2KWEE 2KWE @12B8 2KXA 2KXU 2KXI 2KXAA 2KXEE 2KXE 2KXO @12C0 2KXWA @12C2 2KXWI 2KXWAA 2KXWEE 2KXWE
@12C8 2WA 2WU 2WI 2WAA 2WEE 2WE 2WO 2WOA 2PHARYNGEAL_A 3U 3I 3AA 3EE 3E 3O @12D8 2ZA 2ZU 2ZI 2ZAA
2ZEE 2ZE 2ZO 2ZWA 2ZHA 2ZHU 2ZHI 2ZHAA 2ZHEE 2ZHE 2ZHO 2ZHWA 2YA 2YU 2YI 2YAA 2YEE 2YE 2YO 2YOA 2DA
2DU 2DI 2DAA 2DEE 2DE 2DO 2DWA 2DDA 2DDU 2DDI 2DDAA 2DDEE 2DDE 2DDO 2DDWA 2JA 2JU 2JI 2JAA 2JEE 2JE
2JO 2JWA 2GA 2GU 2GI 2GAA 2GEE 2GE 2GO 2GOA 2GWA @1312 2GWI 2GWAA 2GWEE 2GWE @1318 2GGA 2GGU 2GGI
2GGAA 2GGEE 2GGE 2GGO 2GGWAA 2THA 2THU 2THI 2THAA 2THEE 2THE 2THO 2THWA 2CHA 2CHU 2CHI 2CHAA 2CHEE
2CHE 2CHO 2CHWA 2PHA 2PHU 2PHI 2PHAA 2PHEE 2PHE 2PHO 2PHWA 2TSA 2TSU 2TSI 2TSAA 2TSEE 2TSE 2TSO
2TSWA 2TZA 2TZU 2TZI 2TZAA 2TZEE 2TZE 2TZO 2TZOA 2FA 2FU 2FI 2FAA 2FEE 2FE 2FO 2FWA 2PA 2PU 2PI
2PAA 2PEE 2PE 2PO 2PWA 2RYA 2MYA 2FYA @135D 1COMBINING_GEMINATION_AND_VOWEL_LENGTH_MARK 2+3
2GEMINATION+1 1SECTION+1 1WORDSPACE 1FULL_STOP 1COMMA 1SEMICOLON 1COLON 1PREFACE+1 1QUESTION_MARK
1PARAGRAPH_SEPARATOR 1DIGIT_ONE 2TWO 2THREE 2FOUR 2FIVE 2SIX 2SEVEN 2EIGHT 2NINE 1NUMBER_TEN
2TWENTY 2THIRTY 2FORTY 2FIFTY 2SIXTY 2SEVENTY 2EIGHTY 2NINETY 2HUNDRED 2TEN_THOUSAND @1380
1SYLLABLE_SEBATBEIT_MWA 2MWI 2MWEE 2MWE 2SEBATBEIT_BWA 2BWI 2BWEE 2BWE 2SEBATBEIT_FWA 2FWI 2FWEE
2FWE 2SEBATBEIT_PWA 2PWI 2PWEE 2PWE 1TONAL_MARK_YIZET 3DERET 3RIKRIK 3SHORT+1 3DIFAT 3KENAT 3CHIRET
3HIDET 3DERET-HIDET 3KURT @13A0 0CHEROKEE_LETTER_A 2E 2I 2O 2U 2V 2GA 2KA 2GE 2GI 2GO 2GU 2GV 2HA
2HE 2HI 2HO 2HU 2HV 2LA 2LE 2LI 2LO 2LU 2LV 2MA 2ME 2MI 2MO 2MU 2NA 2HNA 2NAH 2NE 2NI 2NO 2NU 2NV
2QUA 2QUE 2QUI 2QUO 2QUU 2QUV 2SA 2S 2SE 2SI 2SO 2SU 2SV 2DA 2TA 2DE 2TE 2DI 2TI 2DO 2DU 2DV 2DLA
2TLA 2TLE 2TLI 2TLO 2TLU 2TLV 2TSA 2TSE 2TSI 2TSO 2TSU 2TSV 2WA 2WE 2WI 2WO 2WU 2WV 2YA 2YE 2YI 2YO
2YU 2YV 2MV @13F8 1SMALL_LETTER_YE 3YI 3YO 3YU 3YV 3MV @1400 0CANADIAN_SYLLABICS_HYPHEN 2E 2AAI 2I
2II 2O 2OO 2Y-CREE+1 2CARRIER_EE 3I 2A 2AA 2WE 2WEST-CREE+1 2WI 2WEST-CREE+1 2WII 2WEST-CREE+1 2WO
2WEST-CREE+1 2WOO 2WEST-CREE+1 2NASKAPI+1 2WA 2WEST-CREE+1 2WAA 2WEST-CREE+1 2NASKAPI+1 2AI
2Y-CREE_W 2GLOTTAL_STOP 2FINAL_ACUTE 3GRAVE 3BOTTOM_HALF_RING 3TOP+2 3RIGHT+2 3+1 3DOUBLE_ACUTE
4SHORT_VERTICAL_STROKES 3MIDDLE_DOT 3SHORT_HORIZONTAL_STROKE 3PLUS 3DOWN_TACK 2EN 2IN 2ON 2AN 2PE
2PAAI 2PI 2PII 2PO 2POO 2Y-CREE+1 2CARRIER_HEE 3HI 2PA 2PAA 2PWE 2WEST-CREE+1 2PWI 2WEST-CREE+1
2PWII 2WEST-CREE+1 2PWO 2WEST-CREE+1 2PWOO 2WEST-CREE+1 2PWA 2WEST-CREE+1 2PWAA 2WEST-CREE+1
2Y-CREE+1 2P 2WEST-CREE+1 2CARRIER_H 2TE 2TAAI 2TI 2TII 2TO 2TOO 2Y-CREE+1 2CARRIER_DEE 3DI 2TA
2TAA 2TWE 2WEST-CREE+1 2TWI 2WEST-CREE+1 2TWII 2WEST-CREE+1 2TWO 2WEST-CREE+1 2TWOO 2WEST-CREE+1
2TWA 2WEST-CREE+1 2TWAA 2WEST-CREE+1 2NASKAPI+1 2T 2TTE 2TTI 2TTO 2TTA 2KE 2KAAI 2KI 2KII 2KO 2KOO
2Y-CREE+1 2KA 2KAA 2KWE 2WEST-CREE+1 2KWI 2WEST-CREE+1 2KWII 2WEST-CREE+1 2KWO 2WEST-CREE+1 2KWOO
2WEST-CREE+1 2KWA 2WEST-CREE+1 2KWAA 2WEST-CREE+1 2NASKAPI+1 2K 2KW 2SOUTH-SLAVEY_KEH 3KIH 3KOH
3KAH 2CE 2CAAI 2CI 2CII 2CO 2COO 2Y-CREE+1 2CA 2CAA 2CWE 2WEST-CREE+1 2CWI 2WEST-CREE+1 2CWII
2WEST-CREE+1 2CWO 2WEST-CREE+1 2CWOO 2WEST-CREE+1 2CWA 2WEST-CREE+1 2CWAA 2WEST-CREE+1 2NASKAPI+1
2C 2SAYISI_TH 2ME 2MAAI 2MI 2MII 2MO 2MOO 2Y-CREE+1 2MA 2MAA 2MWE 2WEST-CREE+1 2MWI 2WEST-CREE+1
2MWII 2WEST-CREE+1 2MWO 2WEST-CREE+1 2MWOO 2WEST-CREE+1 2MWA 2WEST-CREE+1 2MWAA 2WEST-CREE+1
2NASKAPI+1 2M 2WEST-CREE+1 2MH 2ATHAPASCAN_M 2SAYISI+1 2NE 2NAAI 2NI 2NII 2NO 2NOO 2Y-CREE+1 2NA
2NAA 2NWE 2WEST-CREE+1 2NWA 2WEST-CREE+1 2NWAA 2WEST-CREE+1 2NASKAPI+1 2N 2CARRIER_NG 2NH 2LE 2LAAI
2LI 2LII 2LO 2LOO 2Y-CREE+1 2LA 2LAA 2LWE 2WEST-CREE+1 2LWI 2WEST-CREE+1 2LWII 2WEST-CREE+1 2LWO
2WEST-CREE+1 2LWOO 2WEST-CREE+1 2LWA 2WEST-CREE+1 2LWAA 2WEST-CREE+1 2L 2WEST-CREE+1 2MEDIAL+1 2SE
2SAAI 2SI 2SII 2SO 2SOO 2Y-CREE+1 2SA 2SAA 2SWE 2WEST-CREE+1 2SWI 2WEST-CREE+1 2SWII 2WEST-CREE+1
2SWO 2WEST-CREE+1 2SWOO 2WEST-CREE+1 2SWA 2WEST-CREE+1 2SWAA 2WEST-CREE+1 2NASKAPI+1 2S
2ATHAPASCAN+1 2SW 2BLACKFOOT_S 2MOOSE-CREE_SK 2NASKAPI_SKW 3S-W 3SPWA 3STWA 3SKWA 3SCWA 2SHE 2SHI
2SHII 2SHO 2SHOO 2SHA 2SHAA 2SHWE 2WEST-CREE+1 2SHWI 2WEST-CREE+1 2SHWII 2WEST-CREE+1 2SHWO
2WEST-CREE+1 2SHWOO 2WEST-CREE+1 2SHWA 2WEST-CREE+1 2SHWAA 2WEST-CREE+1 2SH 2YE 2YAAI 2YI 2YII 2YO
2YOO 2Y-CREE+1 2YA 2YAA 2YWE 2WEST-CREE+1 2YWI 2WEST-CREE+1 2YWII 2WEST-CREE+1 2YWO 2WEST-CREE+1
2YWOO 2WEST-CREE+1 2YWA 2WEST-CREE+1 2YWAA 2WEST-CREE+1 2NASKAPI+1 2Y 2BIBLE-CREE+1 2WEST-CREE+1
2SAYISI_YI 2RE 2R-CREE+1 2WEST-CREE_LE 2RAAI 2RI 2RII 2RO 2ROO 2WEST-CREE_LO 2RA 2RAA 2WEST-CREE_LA
2RWAA 2WEST-CREE+1 2R 2WEST-CREE+1 2MEDIAL+1 2FE 2FAAI 2FI 2FII 2FO 2FOO 2FA 2FAA 2FWAA
2WEST-CREE+1 2F 2THE 2N-CREE+1 2THI 2N-CREE+1 2THII 2N-CREE+1 2THO 2THOO 2THA 2THAA 2THWAA
2WEST-CREE+1 2TH 2TTHE 2TTHI 2TTHO 2TTHA 2TTH 2TYE 2TYI 2TYO 2TYA 2NUNAVIK_HE 3HI 3HII 3HO 3HOO 3HA
3HAA 3H 2NUNAVUT+1 2HK 2QAAI 2QI 2QII 2QO 2QOO 2QA 2QAA 2Q 2TLHE 2TLHI 2TLHO 2TLHA 2WEST-CREE_RE
3RI 3RO 3RA 2NGAAI 2NGI 2NGII 2NGO 2NGOO 2NGA 2NGAA 2NG 2NNG 2SAYISI_SHE 3SHI 3SHO 3SHA
2WOODS-CREE_THE 3THI 3THO 3THA 3TH 2LHI 2LHII 2LHO 2LHOO 2LHA 2LHAA 2LH 2TH-CREE_THE 3THI 3THII
3THO 3THOO 3THA 3THAA 3TH 2AIVILIK_B 2BLACKFOOT_E 3I 3O 3A 3WE 3WI 3WO 3WA 3NE 3NI 3NO 3NA 3KE 3KI
3KO 3KA 2SAYISI_HE 3HI 3HO 3HA 2CARRIER_GHU 3GHO 3GHE 3GHEE 3GHI 3GHA 3RU 3RO 3RE 3REE 3RI 3RA 3WU
3WO 3WE 3WEE 3WI 3WA 3HWU 3HWO 3HWE 3HWEE 3HWI 3HWA 3THU 3THO 3THE 3THEE 3THI 3THA 3TTU 3TTO 3TTE
3TTEE 3TTI 3TTA 3PU 3PO 3PE 3PEE 3PI 3PA 3P 3GU 3GO 3GE 3GEE 3GI 3GA 3KHU 3KHO 3KHE 3KHEE 3KHI 3KHA
3KKU 3KKO 3KKE 3KKEE 3KKI 3KKA 3KK 3NU 3NO 3NE 3NEE 3NI 3NA 3MU 3MO 3ME 3MEE 3MI 3MA 3YU 3YO 3YE
3YEE 3YI 3YA 3JU 2SAYISI+1 2CARRIER_JO 3JE 3JEE 3JI 2SAYISI+1 2CARRIER_JA 3JJU 3JJO 3JJE 3JJEE 3JJI
3JJA 3LU 3LO 3LE 3LEE 3LI 3LA 3DLU 3DLO 3DLE 3DLEE 3DLI 3DLA 3LHU 3LHO 3LHE 3LHEE 3LHI 3LHA 3TLHU
3TLHO 3TLHE 3TLHEE 3TLHI 3TLHA 3TLU 3TLO 3TLE 3TLEE 3TLI 3TLA 3ZU 3ZO 3ZE 3ZEE 3ZI 3ZA 3Z
3INITIAL+1 3DZU 3DZO 3DZE 3DZEE 3DZI 3DZA 3SU 3SO 3SE 3SEE 3SI 3SA 3SHU 3SHO 3SHE 3SHEE 3SHI 3SHA
3SH 3TSU 3TSO 3TSE 3TSEE 3TSI 3TSA 3CHU 3CHO 3CHE 3CHEE 3CHI 3CHA 3TTSU 3TTSO 3TTSE 3TTSEE 3TTSI
3TTSA 2CHI_SIGN 2FULL_STOP 2QAI 2NGAI 2NNGI 2NNGII 2NNGO 2NNGOO 2NNGA 2NNGAA 2WOODS-CREE_THWEE
3THWI 3THWII 3THWO 3THWOO 3THWA 3THWAA 3FINAL_TH 2BLACKFOOT_W 0OGHAM_SPACE_MARK 1LETTER_BEITH 2LUIS
2FEARN 2SAIL 2NION 2UATH 2DAIR 2TINNE 2COLL 2CEIRT 2MUIN 2GORT 2NGEADAL 2STRAIF 2RUIS 2AILM 2ONN
2UR 2EADHADH 2IODHADH 2EABHADH 2OR 2UILLEANN 2IFIN 2EAMHANCHOLL 2PEITH 1FEATHER_MARK 1REVERSED+2
@16A0 0RUNIC_LETTER_FEHU_FEOH_FE_F 2V 2URUZ_UR_U 2YR 2Y 2W 2THURISAZ_THURS_THORN 2ETH 2ANSUZ_A
2OS_O 2AC_A 2AESC 2LONG-BRANCH-OSS_O 2SHORT-TWIG-OSS+1 2+1 2OE 2ON 2RAIDO_RAD_REID_R 2KAUNA 2CEN
2KAUN_K 2G 2ENG 2GEBO_GYFU_G 2GAR 2WUNJO_WYNN_W 2HAGLAZ_H 2HAEGL+1 2LONG-BRANCH-HAGALL+1
2SHORT-TWIG-HAGALL+1 2NAUDIZ_NYD_NAUD_N 2SHORT-TWIG-NAUD+1 2DOTTED-N 2ISAZ_IS_ISS_I 2E 2JERAN_J
2GER 2LONG-BRANCH-AR_AE 2SHORT-TWIG-AR_A 2IWAZ_EOH 2PERTHO_PEORTH_P 2ALGIZ_EOLHX 2SOWILO_S
2SIGEL_LONG-BRANCH-SOL+1 2SHORT-TWIG-SOL+1 2C 2Z 2TIWAZ_TIR_TYR_T 2SHORT-TWIG-TYR+1 2D
2BERKANAN_BEORC_BJARKAN_B 2SHORT-TWIG-BJARKAN+1 2DOTTED-P 2OPEN-P 2EHWAZ_EH_E 2MANNAZ_MAN_M
2LONG-BRANCH-MADR+1 2SHORT-TWIG-MADR+1 2LAUKAZ_LAGU_LOGR_L 2DOTTED-L 2INGWAZ 2ING 2DAGAZ_DAEG_D
2OTHALAN_ETHEL_O 2EAR 2IOR 2CWEORTH 2CALC 2CEALC 2STAN 2LONG-BRANCH-YR 2SHORT-TWIG-YR 2ICELANDIC-YR
2Q 2X 1SINGLE_PUNCTUATION 1MULTIPLE+1 1CROSS+1 1ARLAUG_SYMBOL 1TVIMADUR+1 1BELGTHOR+1 1LETTER_K 2SH
2OO 2FRANKS_CASKET_OS 4IS 4EH 4AC 4AESC @1700 0TAGALOG_LETTER_A 2I 2U 2KA 2GA 2NGA 2TA 2DA 2NA 2PA
2BA 2MA 2YA 2RA 2LA 2WA 2SA 2HA 1VOWEL_SIGN_I 3U 1SIGN_VIRAMA 2PAMUDPOD @171F 1LETTER_ARCHAIC_RA
0HANUNOO_LETTER_A 2I 2U 2KA 2GA 2NGA 2TA 2DA 2NA 2PA 2BA 2MA 2YA 2RA 2LA 2WA 2SA 2HA 1VOWEL_SIGN_I
3U 1SIGN_PAMUDPOD 0PHILIPPINE_SINGLE_PUNCTUATION 1DOUBLE+1 @1740 0BUHID_LETTER_A 2I 2U 2KA 2GA 2NGA
2TA 2DA 2NA 2PA 2BA 2MA 2YA 2RA 2LA 2WA 2SA 2HA 1VOWEL_SIGN_I 3U @1760 0TAGBANWA_LETTER_A 2I 2U 2KA
2GA 2NGA 2TA 2DA 2NA 2PA 2BA 2MA 2YA @176E 2LA 2WA 2SA @1772 1VOWEL_SIGN_I 3U @1780
0KHMER_LETTER_KA 2KHA 2KO 2KHO 2NGO 2CA 2CHA 2CO 2CHO 2NYO 2DA 2TTHA 2DO 2TTHO 2NNO 2TA 2THA 2TO
2THO 2NO 2BA 2PHA 2PO 2PHO 2MO 2YO 2RO 2LO 2VO 2SHA 2SSO 2SA 2HA 2LA 2QA 1INDEPENDENT_VOWEL_QAQ
3QAA 3QI 3QII 3QU 3QUK 3QUU 3QUUV 3RY 3RYY 3LY 3LYY 3QE 3QAI 3QOO_TYPE_ONE 5TWO 3QAU
1VOWEL_INHERENT_AQ 3AA 2SIGN+1 3I 3II 3Y 3YY 3U 3UU 3UA 3OE 3YA 3IE 3E 3AE 3AI 3OO 3AU
1SIGN_NIKAHIT 2REAHMUK 2YUUKALEAPINTU 2MUUSIKATOAN 2TRIISAP 2BANTOC 2ROBAT 2TOANDAKHIAT 2KAKABAT
2AHSDA 2SAMYOK_SANNYA 2VIRIAM 2COENG 2BATHAMASAT 2KHAN 2BARIYOOSAN 2CAMNUC_PII_KUUH 2LEK_TOO
2BEYYAL 2PHNAEK_MUAN 2KOOMUUT 1CURRENCY_SYMBOL_RIEL 1SIGN_AVAKRAHASANYA 2ATTHACAN @17E0 1DIGIT_ZERO
2ONE 2TWO 2THREE 2FOUR 2FIVE 2SIX 2SEVEN 2EIGHT 2NINE @17F0 1SYMBOL_LEK_ATTAK_SON 4MUOY 4PII 4BEI
4BUON 4PRAM 4PRAM-MUOY 4PRAM-PII 4PRAM-BEI 4PRAM-BUON @1800 0MONGOLIAN_BIRGA 1ELLIPSIS 1COMMA
1FULL_STOP 1COLON 1FOUR_DOTS 1TODO_SOFT_HYPHEN 1SIBE_SYLLABLE_BOUNDARY_MARKER 1MANCHU_COMMA
2FULL_STOP 1NIRUGU 1FREE_VARIATION_SELECTOR_ONE 4TWO 4THREE 1VOWEL_SEPARATOR
1FREE_VARIATION_SELECTOR_FOUR 1DIGIT_ZERO 2ONE 2TWO 2THREE 2FOUR 2FIVE 2SIX 2SEVEN 2EIGHT 2NINE
@1820 1LETTER_A 2E 2I 2O 2U 2OE 2UE 2EE 2NA 2ANG 2BA 2PA 2QA 2GA 2MA 2LA 2SA 2SHA 2TA 2DA 2CHA 2JA
2YA 2RA 2WA 2FA 2KA 2KHA 2TSA 2ZA 2HAA 2ZRA 2LHA 2ZHI 2CHI 2TODO_LONG_VOWEL_SIGN 3E 3I 3O 3U 3OE
3UE 3ANG 3BA 3PA 3QA 3GA 3MA 3TA 3DA 3CHA 3JA 3TSA 3YA 3WA 3KA 3GAA 3HAA 3JIA 3NIA 3DZA 2SIBE_E 3I
3IY 3UE 3U 3ANG 3KA 3GA 3HA 3PA 3SHA 3TA 3DA 3JA 3FA 3GAA 3HAA 3TSA 3ZA 3RAA 3CHA 3ZHA 2MANCHU_I
3KA 3RA 3FA 3ZHA 2CHA_WITH_TWO_DOTS @1880 2ALI_GALI_ANUSVARA_ONE 4VISARGA+1 4DAMARU 4UBADAMA
4INVERTED+1 4BALUDA 4THREE+1 4A 4I 4KA 4NGA 4CA 4TTA 4TTHA 4DDA 4NNA 4TA 4DA 4PA 4PHA 4SSA 4ZHA 4ZA
4AH 2TODO_ALI_GALI_TA 5ZHA 2MANCHU_ALI_GALI_GHA 5NGA 5CA 5JHA 5TTA 5DDHA 5TA 5DHA 5SSA 5CYA 5ZHA
5ZA 2ALI_GALI_HALF_U 5YA 2MANCHU_ALI_GALI_BHA 2ALI_GALI_DAGALGA 2MANCHU_ALI_GALI_LHA @18B0
0CANADIAN_SYLLABICS_OY 2AY 2AAY 2WAY 2POY 2PAY 2PWOY 2TAY 2KAY 2KWAY 2MAY 2NOY 2NAY 2LAY 2SOY 2SAY
2SHOY 2SHAY 2SHWOY 2YOY 2YAY 2RAY 2NWI 2OJIBWAY+1 2NWII 2OJIBWAY+1 2NWO 2OJIBWAY+1 2NWOO 2OJIBWAY+1
2RWEE 2RWI 2RWII 2RWO 2RWOO 2RWA 2OJIBWAY_P 3T 3K 3C 3M 3N 3S 3SH 2EASTERN_W 2WESTERN+1
2FINAL_SMALL_RING 3RAISED_DOT 2R-CREE_RWE 2WEST-CREE_LOO 3LAA 2THWE 2THWA 2TTHWE 2TTHOO 2TTHAA
2TLHWE 2TLHOO 2SAYISI_SHWE 3SHOO 3HOO 2CARRIER_GWU 3DENE_GEE 3GAA 3GWA 2SAYISI_JUU 2CARRIER_JWA
2BEAVER_DENE_L 4R 2CARRIER_DENTAL_S @1900 0LIMBU_VOWEL-CARRIER_LETTER 1LETTER_KA 2KHA 2GA 2GHA 2NGA
2CA 2CHA 2JA 2JHA 2YAN 2TA 2THA 2DA 2DHA 2NA 2PA 2PHA 2BA 2BHA 2MA 2YA 2RA 2LA 2WA 2SHA 2SSA 2SA
2HA 2GYAN 2TRA @1920 1VOWEL_SIGN_A 3I 3U 3EE 3AI 3OO 3AU 3E 3O 1SUBJOINED_LETTER_YA 3RA 3WA @1930
1SMALL_LETTER_KA 3NGA 3ANUSVARA 3TA 3NA 3PA 3MA 3RA 3LA 1SIGN_MUKPHRENG 2KEMPHRENG 2SA-I @1940 2LOO
@1944 1EXCLAMATION_MARK 1QUESTION+1 1DIGIT_ZERO 2ONE 2TWO 2THREE 2FOUR 2FIVE 2SIX 2SEVEN 2EIGHT
2NINE 0TAI_LE_LETTER_KA 3XA 3NGA 3TSA 3SA 3YA 3TA 3THA 3LA 3PA 3PHA 3MA 3FA 3VA 3HA 3QA 3KHA 3TSHA
3NA 3A 3I 3EE 3EH 3U 3OO 3O 3UE 3E 3AUE 3AI @1970 3TONE-2 3TONE-3 3TONE-4 3TONE-5 3TONE-6 @1980
0NEW_TAI_LUE_LETTER_HIGH_QA 4LOW+1 4HIGH_KA 5XA 5NGA 4LOW_KA 5XA 5NGA 4HIGH_TSA 5SA 5YA 4LOW_TSA
5SA 5YA 4HIGH_TA 5THA 5NA 4LOW_TA 5THA 5NA 4HIGH_PA 5PHA 5MA 4LOW_PA 5PHA 5MA 4HIGH_FA 5VA 5LA
4LOW_FA 5VA 5LA 4HIGH_HA 5DA 5BA 4LOW_HA 5DA 5BA 4HIGH_KVA 5XVA 4LOW_KVA 5XVA 4HIGH_SUA 4LOW+1
@19B0 3VOWEL_SIGN_VOWEL_SHORTENER 5AA 5II 5U 5UU 5E 5AE 5O 5OA 5UE 5AY 5AAY 5UY 5OY 5OAY 5UEY 5IY
3LETTER_FINAL_V 5NG 5N 5M 5K 5D 5B 3TONE_MARK-1 4MARK-2 @19D0 3DIGIT_ZERO 4ONE 4TWO 4THREE 4FOUR
4FIVE 4SIX 4SEVEN 4EIGHT 4NINE 3THAM_DIGIT_ONE @19DE 3SIGN_LAE 4LAEV 0KHMER_SYMBOL_PATHAMASAT
2MUOY_KOET 2PII+1 2BEI+1 2BUON+1 2PRAM+1 2PRAM-MUOY+1 2PRAM-PII+1 2PRAM-BEI+1 2PRAM-BUON+1 2DAP+1
2DAP-MUOY+1 2DAP-PII+1 2DAP-BEI+1 2DAP-BUON+1 2DAP-PRAM+1 2TUTEYASAT 2MUOY_ROC 2PII+1 2BEI+1
2BUON+1 2PRAM+1 2PRAM-MUOY+1 2PRAM-PII+1 2PRAM-BEI+1 2PRAM-BUON+1 2DAP+1 2DAP-MUOY+1 2DAP-PII+1
2DAP-BEI+1 2DAP-BUON+1 2DAP-PRAM+1 0BUGINESE_LETTER_KA 2GA 2NGA 2NGKA 2PA 2BA 2MA 2MPA 2TA 2DA 2NA
2NRA 2CA 2JA 2NYA 2NYCA 2YA 2RA 2LA 2VA 2SA 2A 2HA 1VOWEL_SIGN_I 3U 3E 3O 3AE @1A1E 1PALLAWA
1END_OF_SECTION 0TAI_THAM_LETTER_HIGH_KA 4KHA 4KXA 3LOW_KA 4KXA 4KHA 3NGA 3HIGH_CA 4CHA 3LOW_CA 4SA
4CHA 3NYA 3RATA 3HIGH_RATHA 3DA 3LOW_RATHA 3RANA 3HIGH_TA 4THA 3LOW_TA 4THA 3NA 3BA 3HIGH_PA 4PHA
4FA 3LOW_PA 4FA 4PHA 3MA 3LOW_YA 3HIGH+1 3RA 3RUE 3LA 3LUE 3WA 3HIGH_SHA 4SSA 4SA 4HA 3LLA 3A
3LOW_HA 3I 3II 3U 3UU 3EE 3OO 3LAE 3GREAT_SA 2CONSONANT_SIGN_MEDIAL_RA 5LA 4LA_TANG_LAI
2SIGN_MAI_KANG+1 2CONSONANT_SIGN_FINAL_NGA 4LOW_PA 4HIGH_RATHA_OR+2 4MA 4BA 4SA @1A60 2SIGN_SAKOT
2VOWEL_SIGN_A 4MAI_SAT 4AA 4TALL+1 4I 4II 4UE 4UUE 4U 4UU 4O 4OA_BELOW 4OY 4E 4AE 4OO 4AI 4THAM+1
4OA_ABOVE 2SIGN_MAI_KANG 3TONE-1 3TONE-2 3KHUEN_TONE-3 4TONE-4 4TONE-5 3RA_HAAM 3MAI_SAM
3KHUEN-LUE_KARAN @1A7F 2COMBINING_CRYPTOGRAMMIC_DOT 2HORA_DIGIT_ZERO 4ONE 4TWO 4THREE 4FOUR 4FIVE
4SIX 4SEVEN 4EIGHT 4NINE @1A90 2THAM_DIGIT_ZERO 4ONE 4TWO 4THREE 4FOUR 4FIVE 4SIX 4SEVEN 4EIGHT
4NINE @1AA0 2SIGN_WIANG 3WIANGWAAK 3SAWAN 3KEOW 3HOY 3DOKMAI 3REVERSED_ROTATED_RANA 3MAI_YAMOK
3KAAN 3KAANKUU 3SATKAAN 3SATKAANKUU 3HANG 3CAANG @1AB0 0COMBINING_DOUBLED_CIRCUMFLEX_ACCENT
1DIAERESIS-RING 1INFINITY 1DOWNWARDS_ARROW 1TRIPLE_DOT 1X-X_BELOW 1WIGGLY_LINE+1 1OPEN_MARK+1
1DOUBLE+3 1LIGHT_CENTRALIZATION_STROKE+1 1STRONG+3 1PARENTHESES_ABOVE 1DOUBLE+2 1PARENTHESES_BELOW
2OVERLAY 1LATIN_SMALL_LETTER_W_BELOW 4TURNED+2 1LEFT_PARENTHESIS_ABOVE_LEFT
1RIGHT_PARENTHESIS_ABOVE_RIGHT 1LEFT_PARENTHESIS_BELOW_LEFT 1RIGHT_PARENTHESIS_BELOW_RIGHT
1SQUARE_BRACKETS_ABOVE 1NUMBER_SIGN+1 1INVERTED_DOUBLE_ARCH+1 1PLUS_SIGN+1 1DOUBLE+3 4BELOW
1TRIPLE_ACUTE_ACCENT 1LATIN_SMALL_LETTER_INSULAR_G 5R 5T @1B00 0BALINESE_SIGN_ULU_RICEM 3CANDRA
2CECEK 2SURANG 2BISAH 1LETTER_AKARA 3TEDUNG 2IKARA 3TEDUNG 2UKARA 3TEDUNG 2RA_REPA 4TEDUNG
2LA_LENGA 4TEDUNG 2EKARA 2AIKARA 2OKARA 3TEDUNG 2KA 3MAHAPRANA 2GA 3GORA 2NGA 2CA 3LACA 2JA 3JERA
2NYA 2TA_LATIK 3MURDA_MAHAPRANA 2DA_MURDA_ALPAPRANA 4MAHAPRANA 2NA_RAMBAT 2TA 3TAWA 2DA 3MADU 2NA
2PA 3KAPAL 2BA 3KEMBANG 2MA 2YA 2RA 2LA 2WA 2SA_SAGA 3SAPA 3 2HA 1SIGN_REREKAN 1VOWEL_SIGN_TEDUNG
3ULU 4SARI 3SUKU 4ILUT 3RA_REPA 5TEDUNG 3LA_LENGA 5TEDUNG 3TALING 4REPA 4TEDUNG 4REPA+1 3PEPET
4TEDUNG 1ADEG_ADEG 1LETTER_KAF_SASAK 2KHOT+1 2TZIR+1 2EF+1 2VE+1 2ZAL+1 2ASYURA+1 2ARCHAIC_JNYA
@1B50 1DIGIT_ZERO 2ONE 2TWO 2THREE 2FOUR 2FIVE 2SIX 2SEVEN 2EIGHT 2NINE 1PANTI 1PAMADA 1WINDU
1CARIK_PAMUNGKAH 2SIKI 2PAREREN 1PAMENENG 1MUSICAL_SYMBOL_DONG 3DENG 3DUNG 3DANG 4SURANG 3DING
3DAENG 3DEUNG 3DAING 3DANG_GEDE 3COMBINING_TEGEH 4ENDEP 4KEMPUL 4KEMPLI 4JEGOGAN 4KEMPUL_WITH+1
4KEMPLI+2 4BENDE 4GONG 3RIGHT-HAND_OPEN_DUG 5DAG 4CLOSED_TUK 5TAK 3LEFT-HAND_OPEN_PANG 5PUNG
4CLOSED_PLAK 5PLUK 4OPEN_PING 1PANTI_LANTANG 1PAMADA+1 @1B80 0SUNDANESE_SIGN_PANYECEK 2PANGLAYAR
2PANGWISAD 1LETTER_A 2I 2U 2AE 2O 2E 2EU 2KA 2QA 2GA 2NGA 2CA 2JA 2ZA 2NYA 2TA 2DA 2NA 2PA 2FA 2VA
2BA 2MA 2YA 2RA 2LA 2WA 2SA 2XA 2HA 1CONSONANT_SIGN_PAMINGKAL 3PANYAKRA 3PANYIKU
1VOWEL_SIGN_PANGHULU 3PANYUKU 3PANAELAENG 3PANOLONG 3PAMEPET 3PANEULEUNG 1SIGN_PAMAAEH 2VIRAMA
1CONSONANT_SIGN_PASANGAN_MA 4WA 1LETTER_KHA 2SYA 1DIGIT_ZERO 2ONE 2TWO 2THREE 2FOUR 2FIVE 2SIX
2SEVEN 2EIGHT 2NINE 1AVAGRAHA 1LETTER_REU 2LEU 2BHA 2FINAL_K 3M 0BATAK_LETTER_A 2SIMALUNGUN+1 2HA
2SIMALUNGUN+1 2MANDAILING+1 2BA 2KARO+1 2PA 2SIMALUNGUN+1 2NA 2MANDAILING+1 2WA 2SIMALUNGUN+1
2PAKPAK+1 2GA 2SIMALUNGUN+1 2JA 2DA 2RA 2SIMALUNGUN+1 2MA 2SIMALUNGUN+1 2SOUTHERN_TA 2NORTHERN+1
2SA 2SIMALUNGUN+1 2MANDAILING+1 2YA 2SIMALUNGUN+1 2NGA 2LA 2SIMALUNGUN+1 2NYA 2CA 2NDA 2MBA 2I 2U
1SIGN_TOMPI 1VOWEL_SIGN_E 3PAKPAK+1 3EE 3I 3KARO+1 3O 3KARO+1 3U 4FOR_SIMALUNGUN_SA
1CONSONANT_SIGN_NG 3H 1PANGOLAT 1PANONGONAN @1BFC 1SYMBOL_BINDU_NA_METEK 3PINARBORAS 3JUDUL
3PANGOLAT 0LEPCHA_LETTER_KA 2KLA 2KHA 2GA 2GLA 2NGA 2CA 2CHA 2JA 2NYA 2TA 2THA 2DA 2NA 2PA 2PLA
2PHA 2FA 2FLA 2BA 2BLA 2MA 2MLA 2TSA 2TSHA 2DZA 2YA 2RA 2LA 2HA 2HLA 2VA 2SA 2SHA 2WA 2A
1SUBJOINED_LETTER_YA 3RA 1VOWEL_SIGN_AA 3I 3O 3OO 3U 3UU 3E 1CONSONANT_SIGN_K 3M 3L 3N 3P 3R 3T
3NYIN-DO 3KANG 1SIGN_RAN 2NUKTA @1C3B 1PUNCTUATION_TA-ROL 2NYET_THYOOM+1 2CER-WA 2TSHOOK+1 3
1DIGIT_ZERO 2ONE 2TWO 2THREE 2FOUR 2FIVE 2SIX 2SEVEN 2EIGHT 2NINE @1C4D 1LETTER_TTA 2TTHA 2DDA
0OL_CHIKI_DIGIT_ZERO 3ONE 3TWO 3THREE 3FOUR 3FIVE 3SIX 3SEVEN 3EIGHT 3NINE 2LETTER_LA 3AT 3AG 3ANG
3AL 3LAA 3AAK 3AAJ 3AAM 3AAW 3LI 3IS 3IH 3INY 3IR 3LU 3UC 3UD 3UNN 3UY 3LE 3EP 3EDD 3EN 3ERR 3LO
3OTT 3OB 3OV 3OH 2MU_TTUDDAG 2GAAHLAA_TTUDDAAG 2MU-GAAHLAA+1 2RELAA 2PHAARKAA 2AHAD
2PUNCTUATION_MUCAAD 3DOUBLE+1 0CYRILLIC_SMALL_LETTER_ROUNDED_VE 3LONG-LEGGED_DE 3NARROW_O 3WIDE_ES
3TALL_TE 3THREE-LEGGED+1 3TALL_HARD_SIGN 4YAT 3UNBLENDED_UK @1C90
0GEORGIAN_MTAVRULI_CAPITAL_LETTER_AN 4BAN 4GAN 4DON 4EN 4VIN 4ZEN 4TAN 4IN 4KAN 4LAS 4MAN 4NAR 4ON
4PAR 4ZHAR 4RAE 4SAN 4TAR 4UN 4PHAR 4KHAR 4GHAN 4QAR 4SHIN 4CHIN 4CAN 4JIL 4CIL 4CHAR 4XAN 4JHAN
4HAE 4HE 4HIE 4WE 4HAR 4HOE 4FI 4YN 4ELIFI 4TURNED_GAN 4AIN @1CBD 4AEN 4HARD_SIGN 4LABIAL+1
0SUNDANESE_PUNCTUATION_BINDU_SURYA 3PANGLONG 3PURNAMA 3CAKRA 3LEU_SATANGA 3KA+1 3DA+1 3BA+1 @1CD0
0VEDIC_TONE_KARSHANA 2SHARA 2PRENKHA 1SIGN_NIHSHVASA 2YAJURVEDIC_MIDLINE_SVARITA
1TONE_YAJURVEDIC_AGGRAVATED_INDEPENDENT+1 3+2 3KATHAKA+2 2CANDRA_BELOW
2YAJURVEDIC_KATHAKA_INDEPENDENT_SVARITA_SCHROEDER 2DOUBLE_SVARITA 2TRIPLE+1 2KATHAKA_ANUDATTA
2DOT_BELOW 2TWO_DOTS+1 2THREE+2 2RIGVEDIC_KASHMIRI_INDEPENDENT_SVARITA 2ATHARVAVEDIC+2
1SIGN_VISARGA+1 3UDATTA 2REVERSED+2 2VISARGA_ANUDATTA 2REVERSED+2 2VISARGA_UDATTA_WITH_TAIL
3ANUDATTA+2 2ANUSVARA_ANTARGOMUKHA 3BAHIRGOMUKHA 3VAMAGOMUKHA 4WITH_TAIL 2TIRYAK
2HEXIFORM_LONG_ANUSVARA 2+2 2RTHANG+2 2ANUSVARA_UBHAYATO_MUKHA 2ARDHAVISARGA 2ROTATED+1
1TONE_CANDRA_ABOVE 1SIGN_JIHVAMULIYA 2UPADHMANIYA 2ATIKRAMA 1TONE_RING_ABOVE 2DOUBLE+2
1SIGN_DOUBLE_ANUSVARA_ANTARGOMUKHA @1D00 0LATIN_LETTER_SMALL_CAPITAL_A 4AE 1SMALL_LETTER_TURNED+1
1LETTER_SMALL_CAPITAL_BARRED_B 4C 4D 4ETH 4E 1SMALL_LETTER_TURNED_OPEN+1 4I 1LETTER_SMALL_CAPITAL_J
4K 4L_WITH_STROKE 4M 4REVERSED_N 4O 4OPEN+1 1SMALL_LETTER_SIDEWAYS+1 4OPEN+1 4O_WITH_STROKE
3TURNED_OE 1LETTER_SMALL_CAPITAL_OU 1SMALL_LETTER_TOP_HALF_O 3BOTTOM+2 1LETTER_SMALL_CAPITAL_P
4REVERSED_R 4TURNED+1 4T 4U 1SMALL_LETTER_SIDEWAYS+1 4DIAERESIZED+1 4TURNED_M
1LETTER_SMALL_CAPITAL_V 4W 4Z 4EZH 2VOICED_LARYNGEAL_SPIRANT 2AIN 0GREEK_LETTER_SMALL_CAPITAL_GAMMA
4LAMDA 4PI 4RHO 4PSI 0CYRILLIC_LETTER_SMALL_CAPITAL_EL 0MODIFIER_LETTER_CAPITAL_A 3AE 3B 3BARRED+1
3D 3E 3REVERSED+1 3G 3H 3I 3J 3K 3L 3M 3N 3REVERSED+1 3O 3OU 3P 3R 3T 3U 3W 2SMALL_A 3TURNED+1
3ALPHA 3TURNED_AE 3B 3D 3E 3SCHWA 3OPEN_E 3TURNED+2 3G 3TURNED_I 3K 3M 3ENG 3O 3OPEN+1 3TOP_HALF+1
3BOTTOM+2 3P 3T 3U 3SIDEWAYS+1 3TURNED_M 3V 3AIN 3BETA 3GREEK_GAMMA 3DELTA 3GREEK_PHI 3CHI
0LATIN_SUBSCRIPT_SMALL_LETTER_I 4R 4U 4V 0GREEK_SUBSCRIPT_SMALL_LETTER_BETA 4GAMMA 4RHO 4PHI 4CHI
0LATIN_SMALL_LETTER_UE 3B_WITH_MIDDLE_TILDE 3D+3 3F+3 3M+3 3N+3 3P+3 3R+3 5FISHHOOK_AND+2 3S_WITH+2
3T+3 3Z+3 3TURNED_G 0MODIFIER_LETTER_CYRILLIC_EN 0LATIN_SMALL_LETTER_INSULAR_G
3TH_WITH_STRIKETHROUGH 2CAPITAL_LETTER_I_WITH_STROKE 2LETTER_IOTA+2 3P+2 2CAPITAL_LETTER_U+2
2LETTER_UPSILON+2 3B_WITH_PALATAL_HOOK 3D+3 3F+3 3G+3 3K+3 3L+3 3M+3 3N+3 3P+3 3R+3 3S+3 3ESH+3
3V+3 3X+3 3Z+3 3A_WITH_RETROFLEX+1 3ALPHA+3 3D_WITH_HOOK_AND_TAIL 3E_WITH_RETROFLEX_HOOK 3OPEN+4
3REVERSED+5 3SCHWA+3 3I+3 3OPEN_O+3 3ESH+3 3U+3 3EZH+3 0MODIFIER_LETTER_SMALL_TURNED_ALPHA 3C
4WITH_CURL 3ETH 3REVERSED_OPEN_E 3F 3DOTLESS_J_WITH_STROKE 3SCRIPT_G 3TURNED_H 3I_WITH_STROKE 3IOTA
3CAPITAL_I 5WITH_STROKE 3J_WITH_CROSSED-TAIL 3L_WITH_RETROFLEX_HOOK 5PALATAL+1 3CAPITAL_L
3M_WITH_HOOK 3TURNED_M_WITH_LONG_LEG 3N_WITH_LEFT_HOOK 5RETROFLEX+1 3CAPITAL_N 3BARRED_O 3PHI
3S_WITH_HOOK 3ESH 3T_WITH_PALATAL_HOOK 3U_BAR 3UPSILON 3CAPITAL_U 3V_WITH_HOOK 3TURNED_V 3Z
4WITH_RETROFLEX_HOOK 5CURL 3EZH 3THETA 0COMBINING_DOTTED_GRAVE_ACCENT 2ACUTE+1 1SNAKE_BELOW
1SUSPENSION_MARK 1MACRON-ACUTE 1GRAVE-MACRON 1MACRON-GRAVE 1ACUTE-MACRON 1GRAVE-ACUTE-GRAVE
1ACUTE-GRAVE-ACUTE 1LATIN_SMALL_LETTER_R_BELOW 1BREVE-MACRON 1MACRON-BREVE 1DOUBLE_CIRCUMFLEX_ABOVE
1OGONEK+1 1ZIGZAG_BELOW 1IS+1 1UR_ABOVE 1US+1 1LATIN_SMALL_LETTER_FLATTENED_OPEN_A+1 4AE 4AO 4AV
4C_CEDILLA 4INSULAR_D 4ETH 4G 2LETTER_SMALL_CAPITAL+1 2SMALL_LETTER_K 4L 2LETTER_SMALL_CAPITAL+1 5M
2SMALL_LETTER_N 2LETTER_SMALL_CAPITAL+1 5R 2SMALL_LETTER_R_ROTUNDA 4S 4LONG+1 4Z 4ALPHA 4B 4BETA
4SCHWA 4F 4L_WITH_DOUBLE_MIDDLE_TILDE 4O_WITH_LIGHT_CENTRALIZATION_STROKE 4P 4ESH
4U_WITH_LIGHT_CENTRALIZATION_STROKE 4W 4A_WITH_DIAERESIS 4O+2 4U+2 1UP_TACK_ABOVE
1KAVYKA_ABOVE_RIGHT 3LEFT 1DOT+2 1WIDE_INVERTED_BRIDGE_BELOW 1DOT_BELOW_LEFT 1DELETION_MARK
1DOUBLE_INVERTED_BREVE_BELOW 1ALMOST_EQUAL_TO+1 1LEFT_ARROWHEAD_ABOVE
1RIGHT_ARROWHEAD_AND_DOWN_ARROWHEAD_BELOW 0LATIN_CAPITAL_LETTER_A_WITH_RING+1 1SMALL+5
1CAPITAL_LETTER_B_WITH_DOT_ABOVE 1SMALL+5 1CAPITAL_LETTER_B_WITH_DOT_BELOW 1SMALL+5
1CAPITAL_LETTER_B_WITH_LINE+1 1SMALL+5 1CAPITAL_LETTER_C_WITH_CEDILLA_AND_ACUTE 1SMALL+6
1CAPITAL_LETTER_D_WITH_DOT_ABOVE 1SMALL+5 1CAPITAL_LETTER_D_WITH_DOT_BELOW 1SMALL+5
1CAPITAL_LETTER_D_WITH_LINE+1 1SMALL+5 1CAPITAL_LETTER_D_WITH_CEDILLA 1SMALL+4
1CAPITAL_LETTER_D_WITH_CIRCUMFLEX_BELOW 1SMALL+5 1CAPITAL_LETTER_E_WITH_MACRON_AND_GRAVE 1SMALL+6
1CAPITAL_LETTER_E_WITH_MACRON_AND_ACUTE 1SMALL+6 1CAPITAL_LETTER_E_WITH_CIRCUMFLEX_BELOW 1SMALL+5
1CAPITAL_LETTER_E_WITH_TILDE+1 1SMALL+5 1CAPITAL_LETTER_E_WITH_CEDILLA_AND_BREVE 1SMALL+6
1CAPITAL_LETTER_F_WITH_DOT_ABOVE 1SMALL+5 1CAPITAL_LETTER_G_WITH_MACRON 1SMALL+4
1CAPITAL_LETTER_H_WITH_DOT_ABOVE 1SMALL+5 1CAPITAL_LETTER_H_WITH_DOT_BELOW 1SMALL+5
1CAPITAL_LETTER_H_WITH_DIAERESIS 1SMALL+4 1CAPITAL_LETTER_H_WITH_CEDILLA 1SMALL+4
1CAPITAL_LETTER_H_WITH_BREVE_BELOW 1SMALL+5 1CAPITAL_LETTER_I_WITH_TILDE+1 1SMALL+5
1CAPITAL_LETTER_I_WITH_DIAERESIS_AND_ACUTE 1SMALL+6 1CAPITAL_LETTER_K_WITH+1 1SMALL+4
1CAPITAL_LETTER_K_WITH_DOT_BELOW 1SMALL+5 1CAPITAL_LETTER_K_WITH_LINE+1 1SMALL+5
1CAPITAL_LETTER_L_WITH_DOT+1 1SMALL+5 1CAPITAL_LETTER_L_WITH_DOT_BELOW_AND_MACRON 1SMALL+7
1CAPITAL_LETTER_L_WITH_LINE_BELOW 1SMALL+5 1CAPITAL_LETTER_L_WITH_CIRCUMFLEX+1 1SMALL+5
1CAPITAL_LETTER_M_WITH_ACUTE 1SMALL+4 1CAPITAL_LETTER_M_WITH_DOT_ABOVE 1SMALL+5
1CAPITAL_LETTER_M_WITH_DOT_BELOW 1SMALL+5 1CAPITAL_LETTER_N_WITH_DOT_ABOVE 1SMALL+5
1CAPITAL_LETTER_N_WITH_DOT_BELOW 1SMALL+5 1CAPITAL_LETTER_N_WITH_LINE+1 1SMALL+5
1CAPITAL_LETTER_N_WITH_CIRCUMFLEX+1 1SMALL+5 1CAPITAL_LETTER_O_WITH_TILDE_AND_ACUTE 1SMALL+6
1CAPITAL_LETTER_O_WITH_TILDE_AND_DIAERESIS 1SMALL+6 1CAPITAL_LETTER_O_WITH_MACRON_AND_GRAVE
1SMALL+6 1CAPITAL_LETTER_O_WITH_MACRON_AND_ACUTE 1SMALL+6 1CAPITAL_LETTER_P_WITH+1 1SMALL+4
1CAPITAL_LETTER_P_WITH_DOT_ABOVE 1SMALL+5 1CAPITAL_LETTER_R+3 1SMALL+5
1CAPITAL_LETTER_R_WITH_DOT_BELOW 1SMALL+5 1CAPITAL_LETTER_R_WITH_DOT_BELOW_AND_MACRON 1SMALL+7
1CAPITAL_LETTER_R_WITH_LINE_BELOW 1SMALL+5 1CAPITAL_LETTER_S_WITH_DOT_ABOVE 1SMALL+5
1CAPITAL_LETTER_S_WITH_DOT_BELOW 1SMALL+5 1CAPITAL_LETTER_S_WITH_ACUTE_AND_DOT_ABOVE 1SMALL+7
1CAPITAL_LETTER_S_WITH_CARON+3 1SMALL+7 1CAPITAL_LETTER_S_WITH_DOT_BELOW+3 1SMALL+8
1CAPITAL_LETTER_T_WITH+2 1SMALL+5 1CAPITAL_LETTER_T_WITH_DOT_BELOW 1SMALL+5
1CAPITAL_LETTER_T_WITH_LINE+1 1SMALL+5 1CAPITAL_LETTER_T_WITH_CIRCUMFLEX+1 1SMALL+5
1CAPITAL_LETTER_U_WITH_DIAERESIS+1 1SMALL+5 1CAPITAL_LETTER_U_WITH_TILDE+1 1SMALL+5
1CAPITAL_LETTER_U_WITH_CIRCUMFLEX+1 1SMALL+5 1CAPITAL_LETTER_U_WITH_TILDE_AND_ACUTE 1SMALL+6
1CAPITAL_LETTER_U_WITH_MACRON_AND_DIAERESIS 1SMALL+6 1CAPITAL_LETTER_V_WITH_TILDE 1SMALL+4
1CAPITAL_LETTER_V_WITH_DOT_BELOW 1SMALL+5 1CAPITAL_LETTER_W_WITH_GRAVE 1SMALL+4
1CAPITAL_LETTER_W_WITH_ACUTE 1SMALL+4 1CAPITAL_LETTER_W_WITH_DIAERESIS 1SMALL+4
1CAPITAL_LETTER_W_WITH_DOT_ABOVE 1SMALL+5 1CAPITAL_LETTER_W_WITH_DOT_BELOW 1SMALL+5
1CAPITAL_LETTER_X_WITH_DOT_ABOVE 1SMALL+5 1CAPITAL_LETTER_X_WITH_DIAERESIS 1SMALL+4
1CAPITAL_LETTER_Y_WITH_DOT_ABOVE 1SMALL+5 1CAPITAL_LETTER_Z_WITH_CIRCUMFLEX 1SMALL+4
1CAPITAL_LETTER_Z_WITH_DOT_BELOW 1SMALL+5 1CAPITAL_LETTER_Z_WITH_LINE+1 1SMALL+5 3H+3
3T_WITH_DIAERESIS 3W_WITH_RING_ABOVE 3Y+3 3A_WITH_RIGHT_HALF_RING 3LONG_S_WITH_DOT_ABOVE
6DIAGONAL_STROKE 6HIGH+1 1CAPITAL_LETTER_SHARP_S 1SMALL_LETTER_DELTA
1CAPITAL_LETTER_A_WITH_DOT_BELOW 1SMALL+5 1CAPITAL_LETTER_A_WITH_HOOK_ABOVE 1SMALL+5
1CAPITAL_LETTER_A_WITH_CIRCUMFLEX_AND_ACUTE 1SMALL+6 1CAPITAL_LETTER_A_WITH_CIRCUMFLEX_AND_GRAVE
1SMALL+6 1CAPITAL_LETTER_A_WITH_CIRCUMFLEX_AND_HOOK_ABOVE 1SMALL+7
1CAPITAL_LETTER_A_WITH_CIRCUMFLEX_AND_TILDE 1SMALL+6
1CAPITAL_LETTER_A_WITH_CIRCUMFLEX_AND_DOT_BELOW 1SMALL+7 1CAPITAL_LETTER_A_WITH_BREVE_AND_ACUTE
1SMALL+6 1CAPITAL_LETTER_A_WITH_BREVE_AND_GRAVE 1SMALL+6
1CAPITAL_LETTER_A_WITH_BREVE_AND_HOOK_ABOVE 1SMALL+7 1CAPITAL_LETTER_A_WITH_BREVE_AND_TILDE
1SMALL+6 1CAPITAL_LETTER_A_WITH_BREVE_AND_DOT_BELOW 1SMALL+7 1CAPITAL_LETTER_E_WITH+2 1SMALL+5
1CAPITAL_LETTER_E_WITH_HOOK_ABOVE 1SMALL+5 1CAPITAL_LETTER_E_WITH_TILDE 1SMALL+4
1CAPITAL_LETTER_E_WITH_CIRCUMFLEX_AND_ACUTE 1SMALL+6 1CAPITAL_LETTER_E_WITH_CIRCUMFLEX_AND_GRAVE
1SMALL+6 1CAPITAL_LETTER_E_WITH_CIRCUMFLEX_AND_HOOK_ABOVE 1SMALL+7
1CAPITAL_LETTER_E_WITH_CIRCUMFLEX_AND_TILDE 1SMALL+6
1CAPITAL_LETTER_E_WITH_CIRCUMFLEX_AND_DOT_BELOW 1SMALL+7 1CAPITAL_LETTER_I_WITH_HOOK_ABOVE 1SMALL+5
1CAPITAL_LETTER_I_WITH_DOT_BELOW 1SMALL+5 1CAPITAL_LETTER_O+3 1SMALL+5
1CAPITAL_LETTER_O_WITH_HOOK_ABOVE 1SMALL+5 1CAPITAL_LETTER_O_WITH_CIRCUMFLEX_AND_ACUTE 1SMALL+6
1CAPITAL_LETTER_O_WITH_CIRCUMFLEX_AND_GRAVE 1SMALL+6
1CAPITAL_LETTER_O_WITH_CIRCUMFLEX_AND_HOOK_ABOVE 1SMALL+7
1CAPITAL_LETTER_O_WITH_CIRCUMFLEX_AND_TILDE 1SMALL+6
1CAPITAL_LETTER_O_WITH_CIRCUMFLEX_AND_DOT_BELOW 1SMALL+7 1CAPITAL_LETTER_O_WITH_HORN_AND_ACUTE
1SMALL+6 1CAPITAL_LETTER_O_WITH_HORN_AND_GRAVE 1SMALL+6 1CAPITAL_LETTER_O_WITH_HORN_AND_HOOK_ABOVE
1SMALL+7 1CAPITAL_LETTER_O_WITH_HORN_AND_TILDE 1SMALL+6 1CAPITAL_LETTER_O_WITH_HORN_AND_DOT_BELOW
1SMALL+7 1CAPITAL_LETTER_U_WITH+2 1SMALL+5 1CAPITAL_LETTER_U_WITH_HOOK_ABOVE 1SMALL+5
1CAPITAL_LETTER_U_WITH_HORN_AND_ACUTE 1SMALL+6 1CAPITAL_LETTER_U_WITH_HORN_AND_GRAVE 1SMALL+6
1CAPITAL_LETTER_U_WITH_HORN_AND_HOOK_ABOVE 1SMALL+7 1CAPITAL_LETTER_U_WITH_HORN_AND_TILDE 1SMALL+6
1CAPITAL_LETTER_U_WITH_HORN_AND_DOT_BELOW 1SMALL+7 1CAPITAL_LETTER_Y_WITH_GRAVE 1SMALL+4
1CAPITAL_LETTER_Y_WITH_DOT_BELOW 1SMALL+5 1CAPITAL_LETTER_Y_WITH_HOOK_ABOVE 1SMALL+5
1CAPITAL_LETTER_Y_WITH_TILDE 1SMALL+4 1CAPITAL_LETTER_MIDDLE-WELSH_LL 1SMALL+3
1CAPITAL_LETTER_MIDDLE-WELSH_V 1SMALL+3 1CAPITAL_LETTER_Y_WITH_LOOP 1SMALL+4
0GREEK_SMALL_LETTER_ALPHA_WITH_PSILI 5DASIA 5PSILI_AND_VARIA 5DASIA+2 5PSILI_AND_OXIA 5DASIA+2
5PSILI_AND_PERISPOMENI 5DASIA+2 1CAPITAL_LETTER_ALPHA_WITH_PSILI 5DASIA 5PSILI_AND_VARIA 5DASIA+2
5PSILI_AND_OXIA 5DASIA+2 5PSILI_AND_PERISPOMENI 5DASIA+2 1SMALL_LETTER_EPSILON_WITH_PSILI 5DASIA
5PSILI_AND_VARIA 5DASIA+2 5PSILI_AND_OXIA 5DASIA+2 @1F18 1CAPITAL_LETTER_EPSILON_WITH_PSILI 5DASIA
5PSILI_AND_VARIA 5DASIA+2 5PSILI_AND_OXIA 5DASIA+2 @1F20 1SMALL_LETTER_ETA_WITH_PSILI 5DASIA
5PSILI_AND_VARIA 5DASIA+2 5PSILI_AND_OXIA 5DASIA+2 5PSILI_AND_PERISPOMENI 5DASIA+2
1CAPITAL_LETTER_ETA_WITH_PSILI 5DASIA 5PSILI_AND_VARIA 5DASIA+2 5PSILI_AND_OXIA 5DASIA+2
5PSILI_AND_PERISPOMENI 5DASIA+2 1SMALL_LETTER_IOTA_WITH_PSILI 5DASIA 5PSILI_AND_VARIA 5DASIA+2
5PSILI_AND_OXIA 5DASIA+2 5PSILI_AND_PERISPOMENI 5DASIA+2 1CAPITAL_LETTER_IOTA_WITH_PSILI 5DASIA
5PSILI_AND_VARIA 5DASIA+2 5PSILI_AND_OXIA 5DASIA+2 5PSILI_AND_PERISPOMENI 5DASIA+2
1SMALL_LETTER_OMICRON_WITH_PSILI 5DASIA 5PSILI_AND_VARIA 5DASIA+2 5PSILI_AND_OXIA 5DASIA+2 @1F48
1CAPITAL_LETTER_OMICRON_WITH_PSILI 5DASIA 5PSILI_AND_VARIA 5DASIA+2 5PSILI_AND_OXIA 5DASIA+2 @1F50
1SMALL_LETTER_UPSILON_WITH_PSILI 5DASIA 5PSILI_AND_VARIA 5DASIA+2 5PSILI_AND_OXIA 5DASIA+2
5PSILI_AND_PERISPOMENI 5DASIA+2 @1F59 1CAPITAL_LETTER_UPSILON_WITH_DASIA @1F5B 6AND_VARIA @1F5D
7OXIA @1F5F 7PERISPOMENI 1SMALL_LETTER_OMEGA_WITH_PSILI 5DASIA 5PSILI_AND_VARIA 5DASIA+2
5PSILI_AND_OXIA 5DASIA+2 5PSILI_AND_PERISPOMENI 5DASIA+2 1CAPITAL_LETTER_OMEGA_WITH_PSILI 5DASIA
5PSILI_AND_VARIA 5DASIA+2 5PSILI_AND_OXIA 5DASIA+2 5PSILI_AND_PERISPOMENI 5DASIA+2
1SMALL_LETTER_ALPHA_WITH_VARIA 5OXIA 3EPSILON_WITH_VARIA 5OXIA 3ETA_WITH_VARIA 5OXIA
3IOTA_WITH_VARIA 5OXIA 3OMICRON_WITH_VARIA 5OXIA 3UPSILON_WITH_VARIA 5OXIA 3OMEGA_WITH_VARIA 5OXIA
@1F80 3ALPHA_WITH_PSILI_AND_YPOGEGRAMMENI 5DASIA+2 5PSILI_AND_VARIA+2 5DASIA+4 5PSILI_AND_OXIA+2
5DASIA+4 5PSILI_AND_PERISPOMENI+2 5DASIA+4 1CAPITAL_LETTER_ALPHA_WITH_PSILI_AND_PROSGEGRAMMENI
5DASIA+2 5PSILI_AND_VARIA+2 5DASIA+4 5PSILI_AND_OXIA+2 5DASIA+4 5PSILI_AND_PERISPOMENI+2 5DASIA+4
1SMALL_LETTER_ETA_WITH_PSILI_AND_YPOGEGRAMMENI 5DASIA+2 5PSILI_AND_VARIA+2 5DASIA+4
5PSILI_AND_OXIA+2 5DASIA+4 5PSILI_AND_PERISPOMENI+2 5DASIA+4
1CAPITAL_LETTER_ETA_WITH_PSILI_AND_PROSGEGRAMMENI 5DASIA+2 5PSILI_AND_VARIA+2 5DASIA+4
5PSILI_AND_OXIA+2 5DASIA+4 5PSILI_AND_PERISPOMENI+2 5DASIA+4
1SMALL_LETTER_OMEGA_WITH_PSILI_AND_YPOGEGRAMMENI 5DASIA+2 5PSILI_AND_VARIA+2 5DASIA+4
5PSILI_AND_OXIA+2 5DASIA+4 5PSILI_AND_PERISPOMENI+2 5DASIA+4
1CAPITAL_LETTER_OMEGA_WITH_PSILI_AND_PROSGEGRAMMENI 5DASIA+2 5PSILI_AND_VARIA+2 5DASIA+4
5PSILI_AND_OXIA+2 5DASIA+4 5PSILI_AND_PERISPOMENI+2 5DASIA+4 1SMALL_LETTER_ALPHA_WITH_VRACHY
5MACRON 5VARIA_AND_YPOGEGRAMMENI 5+1 5OXIA_AND+1 @1FB6 5PERISPOMENI 6AND_YPOGEGRAMMENI
1CAPITAL_LETTER_ALPHA_WITH_VRACHY 5MACRON 5VARIA 5OXIA 5PROSGEGRAMMENI 1KORONIS 1PROSGEGRAMMENI
1PSILI 1PERISPOMENI 1DIALYTIKA_AND+1 1SMALL_LETTER_ETA_WITH_VARIA_AND_YPOGEGRAMMENI 5+1 5OXIA_AND+1
@1FC6 5PERISPOMENI 6AND_YPOGEGRAMMENI 1CAPITAL_LETTER_EPSILON_WITH_VARIA 5OXIA 3ETA_WITH_VARIA
5OXIA 5PROSGEGRAMMENI 1PSILI_AND_VARIA 3OXIA 3PERISPOMENI 1SMALL_LETTER_IOTA_WITH_VRACHY 5MACRON
5DIALYTIKA_AND_VARIA 7OXIA @1FD6 5PERISPOMENI 5DIALYTIKA_AND+1 1CAPITAL_LETTER_IOTA_WITH_VRACHY
5MACRON 5VARIA 5OXIA @1FDD 1DASIA_AND_VARIA 3OXIA 3PERISPOMENI 1SMALL_LETTER_UPSILON_WITH_VRACHY
5MACRON 5DIALYTIKA_AND_VARIA 7OXIA 3RHO_WITH_PSILI 5DASIA 3UPSILON_WITH_PERISPOMENI
5DIALYTIKA_AND+1 1CAPITAL_LETTER_UPSILON_WITH_VRACHY 5MACRON 5VARIA 5OXIA 3RHO_WITH_DASIA
1DIALYTIKA_AND_VARIA 3OXIA 1VARIA @1FF2 1SMALL_LETTER_OMEGA_WITH_VARIA_AND_YPOGEGRAMMENI 5+1
5OXIA_AND+1 @1FF6 5PERISPOMENI 6AND_YPOGEGRAMMENI 1CAPITAL_LETTER_OMICRON_WITH_VARIA 5OXIA
3OMEGA_WITH_VARIA 5OXIA 5PROSGEGRAMMENI 1OXIA 1DASIA @2000 0EN_QUAD 0EM+1 0EN_SPACE 0EM+1
0THREE-PER-EM+1 0FOUR-PER-EM+1 0SIX-PER-EM+1 0FIGURE+1 0PUNCTUATION+1 0THIN+1 0HAIR+1 0ZERO_WIDTH+1
2NON-JOINER 2JOINER 0LEFT-TO-RIGHT_MARK 0RIGHT-TO-LEFT+1 0HYPHEN 0NON-BREAKING+1 0FIGURE_DASH 0EN+1
0EM+1 0HORIZONTAL_BAR 0DOUBLE_VERTICAL_LINE 1LOW+1 0LEFT_SINGLE_QUOTATION_MARK 0RIGHT+3
0SINGLE_LOW-9+2 1HIGH-REVERSED-9+2 0LEFT_DOUBLE+2 0RIGHT+3 0DOUBLE_LOW-9+2 1HIGH-REVERSED-9+2
0DAGGER 0DOUBLE+1 0BULLET 0TRIANGULAR+1 0ONE_DOT_LEADER 0TWO+2 0HORIZONTAL_ELLIPSIS
0HYPHENATION_POINT 0LINE_SEPARATOR 0PARAGRAPH+1 0LEFT-TO-RIGHT_EMBEDDING 0RIGHT-TO-LEFT+1
0POP_DIRECTIONAL_FORMATTING 0LEFT-TO-RIGHT_OVERRIDE 0RIGHT-TO-LEFT+1 0NARROW_NO-BREAK_SPACE
0PER_MILLE_SIGN 1TEN_THOUSAND+1 0PRIME 0DOUBLE+1 0TRIPLE+1 0REVERSED+1 1DOUBLE+1 1TRIPLE+1 0CARET
0SINGLE_LEFT-POINTING_ANGLE_QUOTATION_MARK 1RIGHT-POINTING+3 0REFERENCE+1 0DOUBLE_EXCLAMATION+1
0INTERROBANG 0OVERLINE 0UNDERTIE 0CHARACTER_TIE 0CARET_INSERTION_POINT 0ASTERISM 0HYPHEN_BULLET
0FRACTION_SLASH 0LEFT_SQUARE_BRACKET_WITH_QUILL 0RIGHT+4 0DOUBLE_QUESTION_MARK
0QUESTION_EXCLAMATION+1 0EXCLAMATION_QUESTION+1 0TIRONIAN_SIGN_ET 0REVERSED_PILCROW_SIGN
0BLACK_LEFTWARDS_BULLET 1RIGHTWARDS+1 0LOW_ASTERISK 0REVERSED_SEMICOLON 0CLOSE_UP
0TWO_ASTERISKS_ALIGNED_VERTICALLY 0COMMERCIAL_MINUS_SIGN 0SWUNG_DASH 0INVERTED_UNDERTIE
0FLOWER_PUNCTUATION_MARK 0THREE_DOT_PUNCTUATION 0QUADRUPLE_PRIME 0FOUR_DOT_PUNCTUATION 0FIVE+2
0TWO+2 0FOUR_DOT_MARK 0DOTTED_CROSS 0TRICOLON 0VERTICAL_FOUR_DOTS 0MEDIUM_MATHEMATICAL_SPACE
0WORD_JOINER 0FUNCTION_APPLICATION 0INVISIBLE_TIMES 1SEPARATOR 1PLUS @2066 0LEFT-TO-RIGHT_ISOLATE
0RIGHT-TO-LEFT+1 0FIRST_STRONG+1 0POP_DIRECTIONAL+1 0INHIBIT_SYMMETRIC_SWAPPING 0ACTIVATE+2
0INHIBIT_ARABIC_FORM_SHAPING 0ACTIVATE+3 0NATIONAL_DIGIT_SHAPES 0NOMINAL+2 0SUPERSCRIPT_ZERO
1LATIN_SMALL_LETTER_I @2074 1FOUR 1FIVE 1SIX 1SEVEN 1EIGHT 1NINE 1PLUS_SIGN 1MINUS 1EQUALS_SIGN
1LEFT_PARENTHESIS 1RIGHT+1 1LATIN_SMALL_LETTER_N 0SUBSCRIPT_ZERO 1ONE 1TWO 1THREE 1FOUR 1FIVE 1SIX
1SEVEN 1EIGHT 1NINE 1PLUS_SIGN 1MINUS 1EQUALS_SIGN 1LEFT_PARENTHESIS 1RIGHT+1 @2090
0LATIN_SUBSCRIPT_SMALL_LETTER_A 4E 4O 4X 4SCHWA 4H 4K 4L 4M 4N 4P 4S 4T @20A0 0EURO-CURRENCY_SIGN
0COLON+1 0CRUZEIRO+1 0FRENCH_FRANC+1 0LIRA+1 0MILL+1 0NAIRA+1 0PESETA+1 0RUPEE+1 0WON+1
0NEW_SHEQEL+1 0DONG+1 0EURO+1 0KIP+1 0TUGRIK+1 0DRACHMA+1 0GERMAN_PENNY+1 0PESO+1 0GUARANI+1
0AUSTRAL+1 0HRYVNIA+1 0CEDI+1 0LIVRE_TOURNOIS+1 0SPESMILO+1 0TENGE+1 0INDIAN_RUPEE+1
0TURKISH_LIRA+1 0NORDIC_MARK+1 0MANAT+1 0RUBLE+1 0LARI+1 0BITCOIN+1 0SOM+1 @20D0
0COMBINING_LEFT_HARPOON_ABOVE 1RIGHT+2 1LONG_VERTICAL_LINE_OVERLAY 1SHORT+3
1ANTICLOCKWISE_ARROW_ABOVE 1CLOCKWISE+2 1LEFT+2 1RIGHT+2 1RING_OVERLAY 1CLOCKWISE+2
1ANTICLOCKWISE+2 1THREE_DOTS_ABOVE 1FOUR+2 1ENCLOSING_CIRCLE 2SQUARE 2DIAMOND 2CIRCLE_BACKSLASH
1LEFT_RIGHT_ARROW_ABOVE 1ENCLOSING_SCREEN 2KEYCAP 2UPWARD_POINTING_TRIANGLE
1REVERSE_SOLIDUS_OVERLAY 1DOUBLE_VERTICAL_STROKE+1 1ANNUITY_SYMBOL 1TRIPLE_UNDERDOT
1WIDE_BRIDGE_ABOVE 1LEFTWARDS_ARROW_OVERLAY 1LONG_DOUBLE_SOLIDUS+1
1RIGHTWARDS_HARPOON_WITH_BARB_DOWNWARDS 1LEFTWARDS+4 1LEFT_ARROW_BELOW 1RIGHT+2 1ASTERISK_ABOVE
@2100 0ACCOUNT_OF 0ADDRESSED_TO_THE_SUBJECT 0DOUBLE-STRUCK_CAPITAL_C 0DEGREE_CELSIUS
0CENTRE_LINE_SYMBOL 0CARE_OF 0CADA_UNA 0EULER_CONSTANT 0SCRUPLE 0DEGREE_FAHRENHEIT 0SCRIPT_SMALL_G
1CAPITAL_H 0BLACK-LETTER+2 0DOUBLE-STRUCK+2 0PLANCK_CONSTANT 2OVER_TWO_PI 0SCRIPT_CAPITAL_I
0BLACK-LETTER+2 0SCRIPT_CAPITAL_L 1SMALL+1 0L_B_BAR_SYMBOL 0DOUBLE-STRUCK_CAPITAL_N 0NUMERO_SIGN
0SOUND_RECORDING_COPYRIGHT 0SCRIPT_CAPITAL_P 0DOUBLE-STRUCK+2 2Q 0SCRIPT_CAPITAL_R 0BLACK-LETTER+2
0DOUBLE-STRUCK+2 0PRESCRIPTION_TAKE 0RESPONSE 0SERVICE_MARK 0TELEPHONE_SIGN 0TRADE_MARK+1 0VERSICLE
0DOUBLE-STRUCK_CAPITAL_Z 0OUNCE_SIGN 0OHM+1 0INVERTED+2 0BLACK-LETTER_CAPITAL_Z
0TURNED_GREEK_SMALL_LETTER_IOTA 0KELVIN_SIGN 0ANGSTROM+1 0SCRIPT_CAPITAL_B 0BLACK-LETTER_CAPITAL_C
0ESTIMATED_SYMBOL 0SCRIPT_SMALL_E 1CAPITAL+1 2F 0TURNED+2 0SCRIPT_CAPITAL_M 1SMALL_O 0ALEF_SYMBOL
0BET+1 0GIMEL+1 0DALET+1 0INFORMATION_SOURCE 0ROTATED_CAPITAL_Q 0FACSIMILE_SIGN
0DOUBLE-STRUCK_SMALL_PI 2GAMMA 1CAPITAL+1 2PI 1N-ARY_SUMMATION 0TURNED_SANS-SERIF_CAPITAL_G 3L
0REVERSED+3 0TURNED_SANS-SERIF_CAPITAL_Y 0DOUBLE-STRUCK_ITALIC_CAPITAL_D 2SMALL+1 3E 3I 3J
0PROPERTY_LINE 0TURNED_AMPERSAND 0PER_SIGN 0AKTIESELSKAB 0TURNED_SMALL_F
0SYMBOL_FOR_SAMARITAN_SOURCE 0VULGAR_FRACTION_ONE_SEVENTH 3NINTH 3TENTH 3THIRD 2TWO_THIRDS
2ONE_FIFTH 2TWO_FIFTHS 2THREE+1 2FOUR+1 2ONE_SIXTH 2FIVE_SIXTHS 2ONE_EIGHTH 2THREE_EIGHTHS 2FIVE+1
2SEVEN+1 0FRACTION_NUMERATOR_ONE 0ROMAN_NUMERAL+1 2TWO 2THREE 2FOUR 2FIVE 2SIX 2SEVEN 2EIGHT 2NINE
2TEN 2ELEVEN 2TWELVE 2FIFTY 2ONE_HUNDRED 2FIVE+1 2ONE_THOUSAND 0SMALL_ROMAN_NUMERAL_ONE 3TWO 3THREE
3FOUR 3FIVE 3SIX 3SEVEN 3EIGHT 3NINE 3TEN 3ELEVEN 3TWELVE 3FIFTY 3ONE_HUNDRED 3FIVE+1 3ONE_THOUSAND
0ROMAN_NUMERAL_ONE_THOUSAND_C_D 2FIVE_THOUSAND 2TEN+1 2REVERSED_ONE_HUNDRED
0LATIN_SMALL_LETTER_REVERSED_C 0ROMAN_NUMERAL_SIX_LATE_FORM 2FIFTY_EARLY+1 3THOUSAND 2ONE_HUNDRED+1
0VULGAR_FRACTION_ZERO_THIRDS 0TURNED_DIGIT_TWO 2THREE @2190 0LEFTWARDS_ARROW 0UPWARDS+1
0RIGHTWARDS+1 0DOWNWARDS+1 0LEFT_RIGHT+1 0UP_DOWN+1 0NORTH_WEST+1 1EAST+1 0SOUTH+2 1WEST+1
0LEFTWARDS_ARROW_WITH_STROKE 0RIGHTWARDS+3 0LEFTWARDS_WAVE_ARROW 0RIGHTWARDS+2
0LEFTWARDS_TWO_HEADED+1 0UPWARDS+3 0RIGHTWARDS+3 0DOWNWARDS+3 0LEFTWARDS_ARROW_WITH_TAIL
0RIGHTWARDS+3 0LEFTWARDS_ARROW_FROM_BAR 0UPWARDS+3 0RIGHTWARDS+3 0DOWNWARDS+3
0UP_DOWN_ARROW_WITH_BASE 0LEFTWARDS_ARROW_WITH_HOOK 0RIGHTWARDS+3 0LEFTWARDS_ARROW_WITH_LOOP
0RIGHTWARDS+3 0LEFT_RIGHT_WAVE_ARROW 2ARROW_WITH_STROKE 0DOWNWARDS_ZIGZAG_ARROW
0UPWARDS_ARROW_WITH_TIP_LEFTWARDS 4RIGHTWARDS 0DOWNWARDS_ARROW_WITH_TIP_LEFTWARDS 4RIGHTWARDS
0RIGHTWARDS_ARROW_WITH_CORNER_DOWNWARDS 0DOWNWARDS_ARROW_WITH_CORNER_LEFTWARDS
0ANTICLOCKWISE_TOP_SEMICIRCLE_ARROW 0CLOCKWISE+3 0NORTH_WEST_ARROW_TO_LONG_BAR
0LEFTWARDS_ARROW_TO_BAR_OVER_RIGHTWARDS_ARROW_TO+1 0ANTICLOCKWISE_OPEN_CIRCLE_ARROW 0CLOCKWISE+3
0LEFTWARDS_HARPOON_WITH_BARB_UPWARDS 4DOWNWARDS 0UPWARDS_HARPOON_WITH_BARB_RIGHTWARDS 4LEFTWARDS
0RIGHTWARDS_HARPOON_WITH_BARB_UPWARDS 4DOWNWARDS 0DOWNWARDS_HARPOON_WITH_BARB_RIGHTWARDS 4LEFTWARDS
0RIGHTWARDS_ARROW_OVER_LEFTWARDS_ARROW 0UPWARDS_ARROW_LEFTWARDS_OF_DOWNWARDS+1
0LEFTWARDS_ARROW_OVER_RIGHTWARDS+1 1PAIRED_ARROWS 0UPWARDS+2 0RIGHTWARDS+2 0DOWNWARDS+2
0LEFTWARDS_HARPOON_OVER_RIGHTWARDS_HARPOON 0RIGHTWARDS_HARPOON_OVER_LEFTWARDS+1
0LEFTWARDS_DOUBLE_ARROW_WITH_STROKE 0LEFT_RIGHT+4 0RIGHTWARDS+4 0LEFTWARDS_DOUBLE_ARROW 0UPWARDS+2
0RIGHTWARDS+2 0DOWNWARDS+2 0LEFT_RIGHT+2 0UP_DOWN+2 0NORTH_WEST+2 1EAST+2 0SOUTH+3 1WEST+2
0LEFTWARDS_TRIPLE+1 0RIGHTWARDS+2 0LEFTWARDS_SQUIGGLE+1 0RIGHTWARDS+2
0UPWARDS_ARROW_WITH_DOUBLE_STROKE 0DOWNWARDS+4 0LEFTWARDS_DASHED_ARROW 0UPWARDS+2 0RIGHTWARDS+2
0DOWNWARDS+2 0LEFTWARDS_ARROW_TO_BAR 0RIGHTWARDS+3 0LEFTWARDS_WHITE_ARROW 0UPWARDS+2 0RIGHTWARDS+2
0DOWNWARDS+2 0UPWARDS_WHITE_ARROW_FROM_BAR 3ON_PEDESTAL 5WITH_HORIZONTAL_BAR 6VERTICAL+1
2DOUBLE_ARROW 4ON_PEDESTAL 0RIGHTWARDS_WHITE_ARROW_FROM_WALL 0NORTH_WEST_ARROW_TO_CORNER
0SOUTH_EAST+3 0UP_DOWN_WHITE_ARROW 0RIGHT_ARROW_WITH_SMALL_CIRCLE
0DOWNWARDS_ARROW_LEFTWARDS_OF_UPWARDS_ARROW 0THREE_RIGHTWARDS_ARROWS
0LEFTWARDS_ARROW_WITH_VERTICAL_STROKE 0RIGHTWARDS+4 0LEFT_RIGHT+4 0LEFTWARDS_ARROW_WITH_DOUBLE+2
0RIGHTWARDS+5 0LEFT_RIGHT+5 0LEFTWARDS_OPEN-HEADED_ARROW 0RIGHTWARDS+2 0LEFT_RIGHT+2 0FOR_ALL
0COMPLEMENT 0PARTIAL_DIFFERENTIAL 0THERE_EXISTS 1DOES_NOT_EXIST 0EMPTY_SET 0INCREMENT 0NABLA
0ELEMENT_OF 0NOT_AN+2 0SMALL+2 0CONTAINS_AS_MEMBER 0DOES_NOT_CONTAIN+2 0SMALL_CONTAINS+2
0END_OF_PROOF 0N-ARY_PRODUCT 1COPRODUCT 1SUMMATION 0MINUS_SIGN 0MINUS-OR-PLUS+1 0DOT_PLUS
0DIVISION_SLASH 0SET_MINUS 0ASTERISK_OPERATOR 0RING+1 0BULLET+1 0SQUARE_ROOT 0CUBE+1 0FOURTH+1
0PROPORTIONAL_TO 0INFINITY 0RIGHT_ANGLE 0+1 0MEASURED+1 0SPHERICAL+1 0DIVIDES 0DOES_NOT_DIVIDE
0PARALLEL_TO 0NOT+2 0LOGICAL_AND 1OR 0INTERSECTION 0UNION 0INTEGRAL 0DOUBLE+1 0TRIPLE+1 0CONTOUR+1
0SURFACE+1 0VOLUME+1 0CLOCKWISE+1 1CONTOUR+1 0ANTICLOCKWISE+2 0THEREFORE 0BECAUSE 0RATIO
0PROPORTION 0DOT_MINUS 0EXCESS 0GEOMETRIC_PROPORTION 0HOMOTHETIC 0TILDE_OPERATOR 0REVERSED_TILDE
0INVERTED_LAZY_S 0SINE_WAVE 0WREATH_PRODUCT 0NOT_TILDE 0MINUS+1 0ASYMPTOTICALLY_EQUAL_TO 0NOT+3
0APPROXIMATELY+2 1BUT_NOT_ACTUALLY+2 0NEITHER_APPROXIMATELY_NOR+3 0ALMOST+2 0NOT+3
0ALMOST_EQUAL_OR+2 0TRIPLE_TILDE 0ALL_EQUAL_TO 0EQUIVALENT+1 0GEOMETRICALLY+2 0DIFFERENCE_BETWEEN
0APPROACHES_THE_LIMIT 0GEOMETRICALLY_EQUAL_TO 0APPROXIMATELY_EQUAL_TO_OR_THE_IMAGE_OF
0IMAGE_OF_OR_APPROXIMATELY_EQUAL_TO 0COLON_EQUALS 0EQUALS_COLON 0RING_IN_EQUAL_TO 1+2
0CORRESPONDS+1 0ESTIMATES 0EQUIANGULAR_TO 0STAR_EQUALS 0DELTA_EQUAL_TO 0EQUAL_TO_BY_DEFINITION
0MEASURED_BY 0QUESTIONED_EQUAL_TO 0NOT+2 0IDENTICAL+1 0NOT+2 0STRICTLY_EQUIVALENT+1
0LESS-THAN_OR_EQUAL+1 0GREATER-THAN+3 0LESS-THAN_OVER+2 0GREATER-THAN+3 0LESS-THAN_BUT_NOT+2
0GREATER-THAN+4 0MUCH_LESS-THAN 1GREATER-THAN 0BETWEEN 0NOT_EQUIVALENT_TO 1LESS-THAN 1GREATER-THAN
0NEITHER_LESS-THAN_NOR_EQUAL_TO 1GREATER-THAN+3 0LESS-THAN_OR_EQUIVALENT+1 0GREATER-THAN+3
0NEITHER_LESS-THAN_NOR+2 1GREATER-THAN+3 0LESS-THAN_OR_GREATER-THAN 0GREATER-THAN_OR_LESS-THAN
0NEITHER_LESS-THAN_NOR_GREATER-THAN 1GREATER-THAN_NOR_LESS-THAN 0PRECEDES 0SUCCEEDS
0PRECEDES_OR_EQUAL_TO 0SUCCEEDS+3 0PRECEDES_OR_EQUIVALENT+1 0SUCCEEDS+3 0DOES_NOT_PRECEDE 2SUCCEED
0SUBSET_OF 0SUPERSET+1 0NOT_A_SUBSET+1 2SUPERSET+1 0SUBSET_OF_OR_EQUAL_TO 0SUPERSET+4
0NEITHER_A_SUBSET_OF_NOR+2 2SUPERSET+4 0SUBSET_OF_WITH_NOT+2 0SUPERSET+5 0MULTISET 1MULTIPLICATION
1UNION 0SQUARE_IMAGE_OF 1ORIGINAL+1 1IMAGE_OF_OR_EQUAL_TO 1ORIGINAL+4 1CAP 1CUP 0CIRCLED_PLUS
1MINUS 1TIMES 1DIVISION_SLASH 1DOT_OPERATOR 1RING+1 1ASTERISK+1 1EQUALS 1DASH 0SQUARED_PLUS 1MINUS
1TIMES 1DOT_OPERATOR 0RIGHT_TACK 0LEFT+1 0DOWN+1 0UP+1 0ASSERTION 0MODELS 0TRUE 0FORCES
0TRIPLE_VERTICAL_BAR_RIGHT_TURNSTILE 0DOUBLE_VERTICAL_BAR_DOUBLE+2 0DOES_NOT_PROVE 0NOT_TRUE
0DOES_NOT_FORCE 0NEGATED_DOUBLE_VERTICAL_BAR_DOUBLE_RIGHT_TURNSTILE 0PRECEDES_UNDER_RELATION
0SUCCEEDS+2 0NORMAL_SUBGROUP_OF 0CONTAINS_AS_NORMAL_SUBGROUP 0NORMAL_SUBGROUP_OF_OR_EQUAL_TO
0CONTAINS_AS_NORMAL_SUBGROUP+3 0ORIGINAL_OF 0IMAGE+1 0MULTIMAP 0HERMITIAN_CONJUGATE_MATRIX
0INTERCALATE 0XOR 0NAND 0NOR 0RIGHT_ANGLE_WITH_ARC 1TRIANGLE 0N-ARY_LOGICAL_AND 2OR 1INTERSECTION
1UNION 0DIAMOND_OPERATOR 0DOT+1 0STAR+1 0DIVISION_TIMES 0BOWTIE
0LEFT_NORMAL_FACTOR_SEMIDIRECT_PRODUCT 0RIGHT+4 0LEFT+2 0RIGHT+2 0REVERSED_TILDE_EQUALS
0CURLY_LOGICAL_OR 2AND 0DOUBLE_SUBSET 1SUPERSET 1INTERSECTION 1UNION 0PITCHFORK
0EQUAL_AND_PARALLEL_TO 0LESS-THAN_WITH_DOT 0GREATER-THAN+2 0VERY_MUCH_LESS-THAN 2GREATER-THAN
0LESS-THAN_EQUAL_TO_OR+1 0GREATER-THAN_EQUAL_TO_OR_LESS-THAN 0+4 3GREATER-THAN 3PRECEDES 3SUCCEEDS
0DOES_NOT_PRECEDE_OR_EQUAL 2SUCCEED+2 0NOT_SQUARE_IMAGE_OF_OR_EQUAL_TO 2ORIGINAL+4
0SQUARE_IMAGE_OF_OR_NOT+2 1ORIGINAL+5 0LESS-THAN_BUT_NOT_EQUIVALENT+1 0GREATER-THAN+4 0PRECEDES+4
0SUCCEEDS+4 0NOT_NORMAL_SUBGROUP_OF 0DOES_NOT_CONTAIN_AS_NORMAL_SUBGROUP
0NOT_NORMAL_SUBGROUP_OF_OR_EQUAL_TO 0DOES_NOT_CONTAIN_AS_NORMAL_SUBGROUP_OR_EQUAL
0VERTICAL_ELLIPSIS 0MIDLINE_HORIZONTAL+1 0UP_RIGHT_DIAGONAL+1 0DOWN+3
0ELEMENT_OF_WITH_LONG_HORIZONTAL_STROKE 3VERTICAL_BAR_AT_END_OF+2 0SMALL+a
0ELEMENT_OF_WITH_DOT_ABOVE 3OVERBAR 0SMALL+4 0ELEMENT_OF_WITH_UNDERBAR 3TWO_HORIZONTAL_STROKES
0CONTAINS_WITH_LONG_HORIZONTAL_STROKE 2VERTICAL_BAR_AT_END_OF+2 0SMALL+9 0CONTAINS_WITH_OVERBAR
0SMALL+3 0Z_NOTATION_BAG_MEMBERSHIP 0DIAMETER_SIGN 0ELECTRIC_ARROW 0HOUSE 0UP_ARROWHEAD 0DOWN+1
0PROJECTIVE 0PERSPECTIVE 0WAVY_LINE 0LEFT_CEILING 0RIGHT+1 0LEFT_FLOOR 0RIGHT+1 0BOTTOM_RIGHT_CROP
1LEFT+1 0TOP_RIGHT+1 1LEFT+1 0REVERSED_NOT_SIGN 0SQUARE_LOZENGE 0ARC 0SEGMENT 0SECTOR
0TELEPHONE_RECORDER 0POSITION_INDICATOR 0VIEWDATA_SQUARE 0PLACE_OF_INTEREST_SIGN 0TURNED_NOT+1
0WATCH 0HOURGLASS 0TOP_LEFT_CORNER 1RIGHT+1 0BOTTOM_LEFT+1 1RIGHT+1 0TOP_HALF_INTEGRAL 0BOTTOM+2
0FROWN 0SMILE 0UP_ARROWHEAD_BETWEEN_TWO_HORIZONTAL_BARS 0OPTION_KEY 0ERASE_TO_THE_RIGHT
0X_IN_A_RECTANGLE_BOX 0KEYBOARD 0LEFT-POINTING_ANGLE_BRACKET 0RIGHT-POINTING+2 0ERASE_TO_THE_LEFT
0BENZENE_RING 0CYLINDRICITY 0ALL_AROUND-PROFILE 0SYMMETRY 0TOTAL_RUNOUT 0DIMENSION_ORIGIN
0CONICAL_TAPER 0SLOPE 0COUNTERBORE 0COUNTERSINK 0APL_FUNCTIONAL_SYMBOL_I-BEAM 3SQUISH_QUAD
3QUAD_EQUAL 4DIVIDE 4DIAMOND 4JOT 4CIRCLE 3CIRCLE_STILE 4JOT 3SLASH_BAR 3BACKSLASH+1 3QUAD_SLASH
4BACKSLASH 4LESS-THAN 4GREATER-THAN 3LEFTWARDS_VANE 3RIGHTWARDS+1 3QUAD_LEFTWARDS_ARROW
4RIGHTWARDS+1 3CIRCLE_BACKSLASH 3DOWN_TACK_UNDERBAR 3DELTA_STILE 3QUAD_DOWN_CARET 4DELTA
3DOWN_TACK_JOT 3UPWARDS_VANE 3QUAD_UPWARDS_ARROW 3UP_TACK_OVERBAR 3DEL_STILE 3QUAD_UP_CARET 4DEL
3UP_TACK_JOT 3DOWNWARDS_VANE 3QUAD_DOWNWARDS_ARROW 3QUOTE_UNDERBAR 3DELTA+1 3DIAMOND+1 3JOT+1
3CIRCLE+1 3UP_SHOE_JOT 3QUOTE_QUAD 3CIRCLE_STAR 3QUAD_COLON 3UP_TACK_DIAERESIS 3DEL+1 3STAR+1
3JOT+1 3CIRCLE+1 3DOWN_SHOE_STILE 3LEFT+2 3TILDE_DIAERESIS 3GREATER-THAN+1 3COMMA_BAR 3DEL_TILDE
3ZILDE 3STILE_TILDE 3SEMICOLON_UNDERBAR 3QUAD_NOT_EQUAL 4QUESTION 3DOWN_CARET_TILDE 3UP+2 3IOTA
3RHO 3OMEGA 3ALPHA_UNDERBAR 3EPSILON+1 3IOTA+1 3OMEGA+1 3ALPHA 0NOT_CHECK_MARK
0RIGHT_ANGLE_WITH_DOWNWARDS_ZIGZAG_ARROW 0SHOULDERED_OPEN_BOX 0BELL_SYMBOL
0VERTICAL_LINE_WITH_MIDDLE_DOT 0INSERTION_SYMBOL 0CONTINUOUS_UNDERLINE+1 0DISCONTINUOUS+2
0EMPHASIS+1 0COMPOSITION+1 0WHITE_SQUARE_WITH_CENTRE_VERTICAL_LINE 0ENTER_SYMBOL 0ALTERNATIVE_KEY+1
0HELM+1 0CIRCLED_HORIZONTAL_BAR_WITH_NOTCH 1TRIANGLE_DOWN 0BROKEN_CIRCLE_WITH_NORTHWEST_ARROW
0UNDO_SYMBOL 0MONOSTABLE+1 0HYSTERESIS+1 0OPEN-CIRCUIT-OUTPUT_H-TYPE+1 1L-TYPE+1
0PASSIVE-PULL-DOWN-OUTPUT+1 0PASSIVE-PULL-UP-OUTPUT+1 0DIRECT_CURRENT_SYMBOL_FORM_TWO
0SOFTWARE-FUNCTION_SYMBOL 0APL_FUNCTIONAL_SYMBOL_QUAD 0DECIMAL_SEPARATOR_KEY_SYMBOL 0PREVIOUS_PAGE
0NEXT+1 0PRINT_SCREEN_SYMBOL 0CLEAR+2 0LEFT_PARENTHESIS_UPPER_HOOK 2EXTENSION 2LOWER_HOOK
0RIGHT_PARENTHESIS_UPPER+1 2EXTENSION 2LOWER_HOOK 0LEFT_SQUARE_BRACKET_UPPER_CORNER 3EXTENSION
3LOWER_CORNER 0RIGHT_SQUARE_BRACKET_UPPER+1 3EXTENSION 3LOWER_CORNER 0LEFT_CURLY_BRACKET_UPPER_HOOK
3MIDDLE_PIECE 3LOWER_HOOK 0CURLY_BRACKET_EXTENSION 0RIGHT_CURLY_BRACKET_UPPER_HOOK 3MIDDLE_PIECE
3LOWER_HOOK 0INTEGRAL_EXTENSION 0HORIZONTAL_LINE+1 0UPPER_LEFT_OR_LOWER_RIGHT_CURLY_BRACKET_SECTION
1RIGHT_OR_LOWER_LEFT+3 0SUMMATION_TOP 1BOTTOM 0TOP_SQUARE_BRACKET 0BOTTOM+2
3OVER_TOP_SQUARE_BRACKET 0RADICAL_SYMBOL_BOTTOM 0LEFT_VERTICAL_BOX_LINE 0RIGHT+3
0HORIZONTAL_SCAN_LINE-1 2LINE-3 2LINE-7 2LINE-9 0DENTISTRY_SYMBOL_LIGHT_VERTICAL_AND_TOP_RIGHT
5BOTTOM+1 4WITH_CIRCLE 3DOWN_AND_HORIZONTAL+2 3UP+4 3VERTICAL_WITH_TRIANGLE 3DOWN_AND_HORIZONTAL+2
3UP+4 3VERTICAL_AND_WAVE 3DOWN_AND_HORIZONTAL_WITH+1 3UP+4 3DOWN_AND_HORIZONTAL 3UP+2
3VERTICAL_AND_TOP_LEFT 5BOTTOM+1 0SQUARE_FOOT 0RETURN_SYMBOL 0EJECT+1 0VERTICAL_LINE_EXTENSION
0METRICAL_BREVE 1LONG_OVER_SHORT 1SHORT_OVER_LONG 1LONG_OVER_TWO_SHORTS 1TWO_SHORTS_OVER_LONG
3JOINED 1TRISEME 1TETRASEME 1PENTASEME 0EARTH_GROUND 0FUSE 0TOP_PARENTHESIS 0BOTTOM+1
0TOP_CURLY_BRACKET 0BOTTOM+2 0TOP_TORTOISE_SHELL+1 0BOTTOM+3 0WHITE_TRAPEZIUM
0BENZENE_RING_WITH_CIRCLE 0STRAIGHTNESS 0FLATNESS 0AC_CURRENT 0ELECTRICAL_INTERSECTION
0DECIMAL_EXPONENT_SYMBOL 0BLACK_RIGHT-POINTING_DOUBLE_TRIANGLE 1LEFT-POINTING+2 1UP-POINTING+2
1DOWN-POINTING+2 1RIGHT-POINTING_DOUBLE_TRIANGLE_WITH_VERTICAL_BAR 1LEFT-POINTING+5
1RIGHT-POINTING_TRIANGLE_WITH_DOUBLE+2 0ALARM_CLOCK 0STOPWATCH 0TIMER_CLOCK
0HOURGLASS_WITH_FLOWING_SAND 0BLACK_MEDIUM_LEFT-POINTING_TRIANGLE 2RIGHT-POINTING+1 2UP-POINTING+1
2DOWN-POINTING+1 0DOUBLE_VERTICAL_BAR 0BLACK_SQUARE_FOR_STOP 1CIRCLE_FOR_RECORD 0POWER_SYMBOL
1ON-OFF+1 1ON+1 1SLEEP+1 0OBSERVER_EYE+1 0SYMBOL_FOR_NULL 2START_OF_HEADING 4TEXT 2END+2
4TRANSMISSION 2ENQUIRY 2ACKNOWLEDGE 2BELL 2BACKSPACE 2HORIZONTAL_TABULATION 2LINE_FEED
2VERTICAL_TABULATION 2FORM_FEED 2CARRIAGE_RETURN 2SHIFT_OUT 3IN 2DATA_LINK_ESCAPE
2DEVICE_CONTROL_ONE 4TWO 4THREE 4FOUR 2NEGATIVE_ACKNOWLEDGE 2SYNCHRONOUS_IDLE
2END_OF_TRANSMISSION_BLOCK 2CANCEL 2END_OF_MEDIUM 2SUBSTITUTE 2ESCAPE 2FILE_SEPARATOR 2GROUP+1
2RECORD+1 2UNIT+1 2SPACE 2DELETE 0BLANK_SYMBOL 0OPEN_BOX 0SYMBOL_FOR_NEWLINE 2DELETE_FORM_TWO
2SUBSTITUTE+2 @2440 0OCR_HOOK 1CHAIR 1FORK 1INVERTED+1 1BELT_BUCKLE 1BOW_TIE
1BRANCH_BANK_IDENTIFICATION 1AMOUNT_OF_CHECK 1DASH 1CUSTOMER_ACCOUNT_NUMBER 1DOUBLE_BACKSLASH @2460
0CIRCLED_DIGIT_ONE 2TWO 2THREE 2FOUR 2FIVE 2SIX 2SEVEN 2EIGHT 2NINE 1NUMBER_TEN 2ELEVEN 2TWELVE
2THIRTEEN 2FOURTEEN 2FIFTEEN 2SIXTEEN 2SEVENTEEN 2EIGHTEEN 2NINETEEN 2TWENTY
0PARENTHESIZED_DIGIT_ONE 2TWO 2THREE 2FOUR 2FIVE 2SIX 2SEVEN 2EIGHT 2NINE 1NUMBER_TEN 2ELEVEN
2TWELVE 2THIRTEEN 2FOURTEEN 2FIFTEEN 2SIXTEEN 2SEVENTEEN 2EIGHTEEN 2NINETEEN 2TWENTY
0DIGIT_ONE_FULL_STOP 1TWO+2 1THREE+2 1FOUR+2 1FIVE+2 1SIX+2 1SEVEN+2 1EIGHT+2 1NINE+2 0NUMBER_TEN+2
1ELEVEN+2 1TWELVE+2 1THIRTEEN+2 1FOURTEEN+2 1FIFTEEN+2 1SIXTEEN+2 1SEVENTEEN+2 1EIGHTEEN+2
1NINETEEN+2 1TWENTY+2 0PARENTHESIZED_LATIN_SMALL_LETTER_A 4B 4C 4D 4E 4F 4G 4H 4I 4J 4K 4L 4M 4N 4O
4P 4Q 4R 4S 4T 4U 4V 4W 4X 4Y 4Z 0CIRCLED_LATIN_CAPITAL_LETTER_A 4B 4C 4D 4E 4F 4G 4H 4I 4J 4K 4L
4M 4N 4O 4P 4Q 4R 4S 4T 4U 4V 4W 4X 4Y 4Z 2SMALL_LETTER_A 4B 4C 4D 4E 4F 4G 4H 4I 4J 4K 4L 4M 4N 4O
4P 4Q 4R 4S 4T 4U 4V 4W 4X 4Y 4Z 1DIGIT_ZERO 0NEGATIVE_CIRCLED_NUMBER_ELEVEN 3TWELVE 3THIRTEEN
3FOURTEEN 3FIFTEEN 3SIXTEEN 3SEVENTEEN 3EIGHTEEN 3NINETEEN 3TWENTY 0DOUBLE_CIRCLED_DIGIT_ONE 3TWO
3THREE 3FOUR 3FIVE 3SIX 3SEVEN 3EIGHT 3NINE 2NUMBER_TEN 0NEGATIVE_CIRCLED_DIGIT_ZERO
0BOX_DRAWINGS_LIGHT_HORIZONTAL 2HEAVY+1 2LIGHT_VERTICAL 2HEAVY+1 2LIGHT_TRIPLE_DASH_HORIZONTAL
2HEAVY+3 2LIGHT_TRIPLE_DASH_VERTICAL 2HEAVY+3 2LIGHT_QUADRUPLE_DASH_HORIZONTAL 2HEAVY+3
2LIGHT_QUADRUPLE_DASH_VERTICAL 2HEAVY+3 2LIGHT_DOWN_AND_RIGHT 2DOWN_LIGHT_AND_RIGHT_HEAVY
3HEAVY_AND_RIGHT_LIGHT 2HEAVY_DOWN_AND_RIGHT 2LIGHT_DOWN_AND_LEFT 2DOWN_LIGHT_AND_LEFT_HEAVY
3HEAVY_AND_LEFT_LIGHT 2HEAVY_DOWN_AND_LEFT 2LIGHT_UP_AND_RIGHT 2UP_LIGHT_AND_RIGHT_HEAVY
3HEAVY_AND_RIGHT_LIGHT 2HEAVY_UP_AND_RIGHT 2LIGHT_UP_AND_LEFT 2UP_LIGHT_AND_LEFT_HEAVY
3HEAVY_AND_LEFT_LIGHT 2HEAVY_UP_AND_LEFT 2LIGHT_VERTICAL_AND_RIGHT 2VERTICAL_LIGHT_AND_RIGHT_HEAVY
2UP_HEAVY_AND_RIGHT_DOWN_LIGHT 2DOWN_HEAVY_AND_RIGHT_UP+1 2VERTICAL_HEAVY_AND_RIGHT+1
2DOWN_LIGHT_AND_RIGHT_UP_HEAVY 2UP_LIGHT_AND_RIGHT_DOWN+1 2HEAVY_VERTICAL_AND_RIGHT
2LIGHT_VERTICAL_AND_LEFT 2VERTICAL_LIGHT_AND_LEFT_HEAVY 2UP_HEAVY_AND_LEFT_DOWN_LIGHT
2DOWN_HEAVY_AND_LEFT_UP+1 2VERTICAL_HEAVY_AND_LEFT+1 2DOWN_LIGHT_AND_LEFT_UP_HEAVY
2UP_LIGHT_AND_LEFT_DOWN+1 2HEAVY_VERTICAL_AND_LEFT 2LIGHT_DOWN_AND_HORIZONTAL
2LEFT_HEAVY_AND_RIGHT_DOWN_LIGHT 2RIGHT_HEAVY_AND_LEFT+2 2DOWN_LIGHT_AND_HORIZONTAL_HEAVY
3HEAVY_AND_HORIZONTAL_LIGHT 2RIGHT_LIGHT_AND_LEFT_DOWN_HEAVY 2LEFT_LIGHT_AND_RIGHT+2
2HEAVY_DOWN_AND_HORIZONTAL 2LIGHT_UP+2 2LEFT_HEAVY_AND_RIGHT_UP_LIGHT 2RIGHT_HEAVY_AND_LEFT+2
2UP_LIGHT_AND_HORIZONTAL_HEAVY 3HEAVY_AND_HORIZONTAL_LIGHT 2RIGHT_LIGHT_AND_LEFT_UP_HEAVY
2LEFT_LIGHT_AND_RIGHT+2 2HEAVY_UP_AND_HORIZONTAL 2LIGHT_VERTICAL+2
2LEFT_HEAVY_AND_RIGHT_VERTICAL_LIGHT 2RIGHT_HEAVY_AND_LEFT+2 2VERTICAL_LIGHT_AND_HORIZONTAL_HEAVY
2UP_HEAVY_AND_DOWN_HORIZONTAL_LIGHT 2DOWN_HEAVY_AND_UP+2 2VERTICAL_HEAVY_AND+2
2LEFT_UP_HEAVY_AND_RIGHT_DOWN+1 2RIGHT_UP_HEAVY_AND_LEFT+2 2LEFT_DOWN_HEAVY_AND_RIGHT_UP+1
2RIGHT_DOWN_HEAVY_AND_LEFT+2 2DOWN_LIGHT_AND_UP_HORIZONTAL_HEAVY 2UP_LIGHT_AND_DOWN+2
2RIGHT_LIGHT_AND_LEFT_VERTICAL+1 2LEFT_LIGHT_AND_RIGHT+2 2HEAVY_VERTICAL_AND_HORIZONTAL
2LIGHT_DOUBLE_DASH+1 2HEAVY+3 2LIGHT_DOUBLE_DASH_VERTICAL 2HEAVY+3 2DOUBLE_HORIZONTAL 3VERTICAL
2DOWN_SINGLE_AND_RIGHT_DOUBLE 3DOUBLE_AND_RIGHT_SINGLE 2DOUBLE_DOWN_AND_RIGHT
2DOWN_SINGLE_AND_LEFT_DOUBLE 3DOUBLE_AND_LEFT_SINGLE 2DOUBLE_DOWN_AND_LEFT
2UP_SINGLE_AND_RIGHT_DOUBLE 3DOUBLE_AND_RIGHT_SINGLE 2DOUBLE_UP_AND_RIGHT
2UP_SINGLE_AND_LEFT_DOUBLE 3DOUBLE_AND_LEFT_SINGLE 2DOUBLE_UP_AND_LEFT
2VERTICAL_SINGLE_AND_RIGHT_DOUBLE 3DOUBLE_AND_RIGHT_SINGLE 2DOUBLE_VERTICAL_AND_RIGHT
2VERTICAL_SINGLE_AND_LEFT_DOUBLE 3DOUBLE_AND_LEFT_SINGLE 2DOUBLE_VERTICAL_AND_LEFT
2DOWN_SINGLE_AND_HORIZONTAL_DOUBLE 3DOUBLE_AND_HORIZONTAL_SINGLE 2DOUBLE_DOWN_AND_HORIZONTAL
2UP_SINGLE_AND_HORIZONTAL_DOUBLE 3DOUBLE_AND_HORIZONTAL_SINGLE 2DOUBLE_UP_AND_HORIZONTAL
2VERTICAL_SINGLE_AND_HORIZONTAL_DOUBLE 3DOUBLE_AND_HORIZONTAL_SINGLE
2DOUBLE_VERTICAL_AND_HORIZONTAL 2LIGHT_ARC_DOWN_AND_RIGHT 6LEFT 4UP+2 6RIGHT
3DIAGONAL_UPPER_RIGHT_TO_LOWER_LEFT 5LEFT_TO_LOWER_RIGHT 4CROSS 3LEFT 3UP 3RIGHT 3DOWN 2HEAVY_LEFT
3UP 3RIGHT 3DOWN 2LIGHT_LEFT_AND_HEAVY_RIGHT 3UP_AND_HEAVY_DOWN 2HEAVY_LEFT_AND_LIGHT_RIGHT
3UP_AND_LIGHT_DOWN 0UPPER_HALF_BLOCK 0LOWER_ONE_EIGHTH+1 2QUARTER+1 1THREE_EIGHTHS+1 1HALF+1
1FIVE_EIGHTHS+1 1THREE_QUARTERS+1 1SEVEN_EIGHTHS+1 0FULL+1 0LEFT_SEVEN_EIGHTHS+1 1THREE_QUARTERS+1
1FIVE_EIGHTHS+1 1HALF+1 1THREE_EIGHTHS+1 1ONE_QUARTER+1 2EIGHTH+1 0RIGHT_HALF+1 0LIGHT_SHADE
0MEDIUM+1 0DARK+1 0UPPER_ONE_EIGHTH_BLOCK 0RIGHT+3 0QUADRANT_LOWER_LEFT 2RIGHT 1UPPER_LEFT
3AND_LOWER_LEFT_AND_LOWER_RIGHT 5+1 4UPPER_RIGHT_AND_LOWER_LEFT 8RIGHT 2+1 3AND_LOWER_LEFT
6AND_LOWER_RIGHT 0BLACK_SQUARE 0WHITE+1 2WITH_ROUNDED_CORNERS 2CONTAINING_BLACK_SMALL_SQUARE
0SQUARE_WITH_HORIZONTAL_FILL 2VERTICAL+1 2ORTHOGONAL_CROSSHATCH+1 2UPPER_LEFT_TO_LOWER_RIGHT+1
3RIGHT_TO_LOWER_LEFT+1 2DIAGONAL_CROSSHATCH+1 0BLACK_SMALL_SQUARE 0WHITE+2 0BLACK_RECTANGLE
0WHITE+1 0BLACK_VERTICAL+1 0WHITE+2 0BLACK_PARALLELOGRAM 0WHITE+1 0BLACK_UP-POINTING_TRIANGLE
0WHITE+2 0BLACK_UP-POINTING_SMALL+1 0WHITE+3 0BLACK_RIGHT-POINTING+1 0WHITE+2
0BLACK_RIGHT-POINTING_SMALL+1 0WHITE+3 0BLACK_RIGHT-POINTING_POINTER 0WHITE+2
0BLACK_DOWN-POINTING_TRIANGLE 0WHITE+2 0BLACK_DOWN-POINTING_SMALL+1 0WHITE+3 0BLACK_LEFT-POINTING+1
0WHITE+2 0BLACK_LEFT-POINTING_SMALL+1 0WHITE+3 0BLACK_LEFT-POINTING_POINTER 0WHITE+2 0BLACK_DIAMOND
0WHITE+1 2CONTAINING_BLACK_SMALL_DIAMOND 0FISHEYE 0LOZENGE 0WHITE_CIRCLE 0DOTTED+1
0CIRCLE_WITH_VERTICAL_FILL 0BULLSEYE 0BLACK_CIRCLE 0CIRCLE_WITH_LEFT_HALF_BLACK 2RIGHT+2 2LOWER+2
2UPPER+2 3RIGHT_QUADRANT+1 2ALL_BUT_UPPER_LEFT+2 0LEFT_HALF_BLACK_CIRCLE 0RIGHT+3 0INVERSE_BULLET
1WHITE_CIRCLE 0UPPER_HALF+3 0LOWER+4 0UPPER_LEFT_QUADRANT_CIRCULAR_ARC 1RIGHT+3 0LOWER+4 1LEFT+3
0UPPER_HALF_CIRCLE 0LOWER+2 0BLACK_LOWER_RIGHT_TRIANGLE 2LEFT+1 1UPPER+2 2RIGHT+1 0WHITE_BULLET
0SQUARE_WITH_LEFT_HALF_BLACK 2RIGHT+2 2UPPER_LEFT_DIAGONAL+2 2LOWER_RIGHT+3
0WHITE_SQUARE_WITH_VERTICAL_BISECTING_LINE 1UP-POINTING_TRIANGLE_WITH_DOT
0UP-POINTING_TRIANGLE_WITH_LEFT_HALF_BLACK 3RIGHT+2 0LARGE_CIRCLE
0WHITE_SQUARE_WITH_UPPER_LEFT_QUADRANT 3LOWER+2 4RIGHT+1 3UPPER+2 1CIRCLE_WITH_UPPER_LEFT+1
3LOWER+2 4RIGHT+1 3UPPER+2 0UPPER_LEFT_TRIANGLE 1RIGHT+1 0LOWER_LEFT+1 0WHITE_MEDIUM_SQUARE
0BLACK+2 0WHITE_MEDIUM_SMALL+1 0BLACK+3 0LOWER_RIGHT_TRIANGLE 0BLACK_SUN_WITH_RAYS 0CLOUD 0UMBRELLA
0SNOWMAN 0COMET 0BLACK_STAR 0WHITE+1 0LIGHTNING 0THUNDERSTORM 0SUN 0ASCENDING_NODE 0DESCENDING+1
0CONJUNCTION 0OPPOSITION 0BLACK_TELEPHONE 0WHITE+1 0BALLOT_BOX 2WITH_CHECK 3X 0SALTIRE
0UMBRELLA_WITH_RAIN_DROPS 0HOT_BEVERAGE 0WHITE_SHOGI_PIECE 0BLACK+2 0SHAMROCK
0REVERSED_ROTATED_FLORAL_HEART_BULLET 0BLACK_LEFT_POINTING_INDEX 1RIGHT+2 0WHITE_LEFT+2 1UP+2
1RIGHT+2 1DOWN+2 0SKULL_AND_CROSSBONES 0CAUTION_SIGN 0RADIOACTIVE+1 0BIOHAZARD+1 0CADUCEUS 0ANKH
0ORTHODOX_CROSS 0CHI_RHO 0CROSS_OF_LORRAINE 2JERUSALEM 0STAR_AND_CRESCENT 0FARSI_SYMBOL 0ADI_SHAKTI
0HAMMER_AND_SICKLE 0PEACE_SYMBOL 0YIN_YANG 0TRIGRAM_FOR_HEAVEN 2LAKE 2FIRE 2THUNDER 2WIND 2WATER
2MOUNTAIN 2EARTH 0WHEEL_OF_DHARMA 0WHITE_FROWNING_FACE 1SMILING+1 0BLACK+2 0WHITE_SUN_WITH_RAYS
0FIRST_QUARTER_MOON 0LAST+2 0MERCURY 0FEMALE_SIGN 0EARTH 0MALE_SIGN 0JUPITER 0SATURN 0URANUS
0NEPTUNE 0PLUTO 0ARIES 0TAURUS 0GEMINI 0CANCER 0LEO 0VIRGO 0LIBRA 0SCORPIUS 0SAGITTARIUS 0CAPRICORN
0AQUARIUS 0PISCES 0WHITE_CHESS_KING 2QUEEN 2ROOK 2BISHOP 2KNIGHT 2PAWN 0BLACK_CHESS_KING 2QUEEN
2ROOK 2BISHOP 2KNIGHT 2PAWN 1SPADE_SUIT 0WHITE_HEART+1 1DIAMOND+1 0BLACK_CLUB+1 0WHITE_SPADE+1
0BLACK_HEART+1 1DIAMOND+1 0WHITE_CLUB+1 0HOT_SPRINGS 0QUARTER_NOTE 0EIGHTH+1 0BEAMED_EIGHTH_NOTES
1SIXTEENTH+1 0MUSIC_FLAT_SIGN 1NATURAL+1 1SHARP+1 0WEST_SYRIAC_CROSS 0EAST+2
0UNIVERSAL_RECYCLING_SYMBOL 0RECYCLING_SYMBOL_FOR_TYPE-1_PLASTICS 3TYPE-2+1 3TYPE-3+1 3TYPE-4+1
3TYPE-5+1 3TYPE-6+1 3TYPE-7+1 3GENERIC_MATERIALS 0BLACK_UNIVERSAL_RECYCLING_SYMBOL
0RECYCLED_PAPER+1 0PARTIALLY-RECYCLED+2 0PERMANENT_PAPER_SIGN 0WHEELCHAIR_SYMBOL 0DIE_FACE-1
1FACE-2 1FACE-3 1FACE-4 1FACE-5 1FACE-6 0WHITE_CIRCLE_WITH_DOT_RIGHT 3TWO_DOTS
0BLACK_CIRCLE_WITH_WHITE_DOT_RIGHT 3TWO_WHITE_DOTS 0MONOGRAM_FOR_YANG 2YIN 0DIGRAM_FOR_GREATER_YANG
2LESSER_YIN 3YANG 2GREATER_YIN 0WHITE_FLAG 0BLACK+1 0HAMMER_AND_PICK 0ANCHOR 0CROSSED_SWORDS
0STAFF_OF_AESCULAPIUS 0SCALES 0ALEMBIC 0FLOWER 0GEAR 0STAFF_OF_HERMES 0ATOM_SYMBOL 0FLEUR-DE-LIS
0OUTLINED_WHITE_STAR 0THREE_LINES_CONVERGING_RIGHT 3LEFT 0WARNING_SIGN 0HIGH_VOLTAGE+1
0DOUBLED_FEMALE+1 1MALE+1 0INTERLOCKED_FEMALE_AND+2 0MALE_AND_FEMALE+1 1WITH_STROKE+1
3AND_MALE_AND_FEMALE+1 0VERTICAL_MALE_WITH_STROKE+1 0HORIZONTAL+4 0MEDIUM_WHITE_CIRCLE 1BLACK+1
1SMALL_WHITE+1 0MARRIAGE_SYMBOL 0DIVORCE+1 0UNMARRIED_PARTNERSHIP+1 0COFFIN 0FUNERAL_URN 0NEUTER
0CERES 0PALLAS 0JUNO 0VESTA 0CHIRON 0BLACK_MOON_LILITH 0SEXTILE 0SEMISEXTILE 0QUINCUNX
0SESQUIQUADRATE 0SOCCER_BALL 0BASEBALL 0SQUARED_KEY 0WHITE_DRAUGHTS_MAN 2KING 0BLACK_DRAUGHTS_MAN
2KING 0SNOWMAN_WITHOUT_SNOW 0SUN_BEHIND_CLOUD 0RAIN 0BLACK_SNOWMAN 0THUNDER_CLOUD_AND_RAIN
0TURNED_WHITE_SHOGI_PIECE 1BLACK+2 0WHITE_DIAMOND_IN_SQUARE 0CROSSING_LANES 0DISABLED_CAR
0OPHIUCHUS 0PICK 0CAR_SLIDING 0HELMET_WITH_WHITE_CROSS 0CIRCLED_CROSSING_LANES 0CHAINS 0NO_ENTRY
0ALTERNATE_ONE-WAY_LEFT_WAY_TRAFFIC 0BLACK_TWO-WAY+3 0WHITE+4 0BLACK_LEFT_LANE_MERGE 0WHITE+3
0DRIVE_SLOW_SIGN 0HEAVY_WHITE_DOWN-POINTING_TRIANGLE 0LEFT_CLOSED_ENTRY 0SQUARED_SALTIRE
0FALLING_DIAGONAL_IN_WHITE_CIRCLE_IN_BLACK_SQUARE 0BLACK_TRUCK 0RESTRICTED_LEFT_ENTRY-1 2ENTRY-2
0ASTRONOMICAL_SYMBOL_FOR_URANUS 0HEAVY_CIRCLE_WITH_STROKE_AND_TWO_DOTS_ABOVE 0PENTAGRAM
0RIGHT-HANDED_INTERLACED+1 0LEFT-HANDED+2 0INVERTED+1 0BLACK_CROSS_ON_SHIELD 0SHINTO_SHRINE 0CHURCH
0CASTLE 0HISTORIC_SITE 0GEAR_WITHOUT_HUB 1WITH_HANDLES 0MAP_SYMBOL_FOR_LIGHTHOUSE 0MOUNTAIN
0UMBRELLA_ON_GROUND 0FOUNTAIN 0FLAG_IN_HOLE 0FERRY 0SAILBOAT 0SQUARE_FOUR_CORNERS 0SKIER 0ICE_SKATE
0PERSON_WITH_BALL 0TENT 0JAPANESE_BANK_SYMBOL 0HEADSTONE_GRAVEYARD+1 0FUEL_PUMP
0CUP_ON_BLACK_SQUARE 0WHITE_FLAG_WITH_HORIZONTAL_MIDDLE_BLACK_STRIPE 0BLACK_SAFETY_SCISSORS
0UPPER_BLADE+1 0BLACK+1 0LOWER_BLADE+1 0WHITE+1 1HEAVY_CHECK_MARK 0TELEPHONE_LOCATION_SIGN
0TAPE_DRIVE 0AIRPLANE 0ENVELOPE 0RAISED_FIST 1HAND 0VICTORY+1 0WRITING+1 0LOWER_RIGHT_PENCIL 0+1
0UPPER_RIGHT+1 0WHITE_NIB 0BLACK+1 0CHECK_MARK 0HEAVY+2 0MULTIPLICATION_X 0HEAVY+2 0BALLOT+1
0HEAVY+2 0OUTLINED_GREEK_CROSS 0HEAVY+2 0OPEN_CENTRE+1 0HEAVY+3 0LATIN+1 0SHADOWED_WHITE+2
0OUTLINED+2 0MALTESE+1 0STAR_OF_DAVID 0FOUR_TEARDROP-SPOKED_ASTERISK 1BALLOON-SPOKED+1 0HEAVY+3
0FOUR_CLUB-SPOKED+1 0BLACK_FOUR_POINTED_STAR 0WHITE+3 0SPARKLES 0STRESS_OUTLINED_WHITE_STAR
0CIRCLED+2 0OPEN_CENTRE_BLACK+1 0BLACK_CENTRE_WHITE+1 0OUTLINED_BLACK+1 0HEAVY+3 0PINWHEEL+1
0SHADOWED_WHITE+1 0HEAVY_ASTERISK 0OPEN_CENTRE+1 0EIGHT_SPOKED+1 1POINTED_BLACK_STAR 2PINWHEEL+1
0SIX_POINTED_BLACK+1 0EIGHT_POINTED_RECTILINEAR+2 0HEAVY+5 0TWELVE_POINTED+2
0SIXTEEN_POINTED_ASTERISK 0TEARDROP-SPOKED+1 0OPEN_CENTRE+2 0HEAVY+2
0SIX_PETALLED_BLACK_AND_WHITE_FLORETTE 0BLACK+1 0WHITE+1 0EIGHT_PETALLED_OUTLINED_BLACK+1
0CIRCLED_OPEN_CENTRE_EIGHT_POINTED_STAR 0HEAVY_TEARDROP-SPOKED_PINWHEEL_ASTERISK 0SNOWFLAKE
0TIGHT_TRIFOLIATE+1 0HEAVY_CHEVRON+1 0SPARKLE 0HEAVY+1 0BALLOON-SPOKED_ASTERISK
0EIGHT_TEARDROP-SPOKED_PROPELLER+1 0HEAVY+4 0CROSS_MARK 0SHADOWED_WHITE_CIRCLE
0NEGATIVE_SQUARED_CROSS_MARK 0LOWER_RIGHT_DROP-SHADOWED_WHITE_SQUARE 0UPPER+4
0LOWER_RIGHT_SHADOWED+2 0UPPER+4 0BLACK_QUESTION_MARK_ORNAMENT 0WHITE+3 1EXCLAMATION+2
0BLACK_DIAMOND_MINUS_WHITE_X 0HEAVY_EXCLAMATION_MARK_SYMBOL 0LIGHT_VERTICAL_BAR 0MEDIUM+2 0HEAVY+2
1SINGLE_TURNED_COMMA_QUOTATION_MARK_ORNAMENT 2+4 1DOUBLE_TURNED+4 2+4 1LOW_SINGLE+4 2DOUBLE+4
0CURVED_STEM_PARAGRAPH_SIGN+1 0HEAVY_EXCLAMATION_MARK+1 1HEART+3 1BLACK_HEART
0ROTATED_HEAVY_BLACK_HEART_BULLET 0FLORAL_HEART 0ROTATED_FLORAL_HEART_BULLET
0MEDIUM_LEFT_PARENTHESIS_ORNAMENT 1RIGHT+2 1FLATTENED_LEFT+2 2RIGHT+2
1LEFT-POINTING_ANGLE_BRACKET+1 1RIGHT-POINTING+3 0HEAVY_LEFT-POINTING_ANGLE_QUOTATION_MARK+1
1RIGHT-POINTING+4 1LEFT-POINTING_ANGLE_BRACKET+1 1RIGHT-POINTING+3 0LIGHT_LEFT_TORTOISE_SHELL+2
1RIGHT+4 0MEDIUM_LEFT_CURLY+2 1RIGHT+3 0DINGBAT_NEGATIVE_CIRCLED_DIGIT_ONE 4TWO 4THREE 4FOUR 4FIVE
4SIX 4SEVEN 4EIGHT 4NINE 3NUMBER_TEN 1CIRCLED_SANS-SERIF_DIGIT_ONE 4TWO 4THREE 4FOUR 4FIVE 4SIX
4SEVEN 4EIGHT 4NINE 3NUMBER_TEN 1NEGATIVE_CIRCLED_SANS-SERIF_DIGIT_ONE 5TWO 5THREE 5FOUR 5FIVE 5SIX
5SEVEN 5EIGHT 5NINE 4NUMBER_TEN 0HEAVY_WIDE-HEADED_RIGHTWARDS_ARROW 1PLUS_SIGN 1MINUS+1 1DIVISION+1
1SOUTH_EAST_ARROW 1RIGHTWARDS+1 1NORTH_EAST+1 0DRAFTING_POINT_RIGHTWARDS+1 0HEAVY_ROUND-TIPPED+2
0TRIANGLE-HEADED+2 0HEAVY+3 0DASHED+3 0HEAVY+4 0BLACK+2 0THREE-D_TOP-LIGHTED_RIGHTWARDS_ARROWHEAD
1BOTTOM-LIGHTED+2 0BLACK+2 0HEAVY_BLACK_CURVED_DOWNWARDS_AND_RIGHTWARDS_ARROW 3UPWARDS+3
0SQUAT_BLACK+2 0HEAVY_CONCAVE-POINTED+3 0RIGHT-SHADED_WHITE+2 0LEFT-SHADED+3
0BACK-TILTED_SHADOWED+3 0FRONT-TILTED+4 0HEAVY_LOWER_RIGHT-SHADOWED+3 1UPPER+4 0NOTCHED_LOWER+4
0CURLY_LOOP 0NOTCHED_UPPER_RIGHT-SHADOWED_WHITE_RIGHTWARDS_ARROW 0CIRCLED_HEAVY+3
0WHITE-FEATHERED+2 0BLACK-FEATHERED_SOUTH_EAST+1 1RIGHTWARDS+1 1NORTH_EAST+1
0HEAVY_BLACK-FEATHERED_SOUTH+2 2RIGHTWARDS+1 2NORTH_EAST+1 0TEARDROP-BARBED_RIGHTWARDS+1
0HEAVY_TEARDROP-SHANKED+2 0WEDGE-TAILED+2 0HEAVY+3 0OPEN-OUTLINED+2 0DOUBLE_CURLY_LOOP
0THREE_DIMENSIONAL_ANGLE 0WHITE_TRIANGLE_CONTAINING_SMALL_WHITE_TRIANGLE 0PERPENDICULAR
0OPEN_SUBSET 1SUPERSET 0LEFT_S-SHAPED_BAG_DELIMITER 0RIGHT+3 0OR_WITH_DOT_INSIDE
0REVERSE_SOLIDUS_PRECEDING_SUBSET 0SUPERSET_PRECEDING_SOLIDUS 0VERTICAL_BAR_WITH_HORIZONTAL_STROKE
0MATHEMATICAL_RISING_DIAGONAL 0LONG_DIVISION 0MATHEMATICAL_FALLING_DIAGONAL 0SQUARED_LOGICAL_AND
2OR 0WHITE_DIAMOND_WITH_CENTRED_DOT 0AND_WITH+1 0ELEMENT_OF_OPENING_UPWARDS
0LOWER_RIGHT_CORNER_WITH_DOT 0UPPER_LEFT+3 0LEFT_OUTER_JOIN 0RIGHT+2 0FULL+2 0LARGE_UP_TACK 1DOWN+1
0LEFT_AND_RIGHT_DOUBLE_TURNSTILE 3TACK 1MULTIMAP 0LONG_RIGHT_TACK 1LEFT+1
0UP_TACK_WITH_CIRCLE_ABOVE 0LOZENGE_DIVIDED_BY_HORIZONTAL_RULE 0WHITE_CONCAVE-SIDED_DIAMOND
3WITH_LEFTWARDS_TICK 4RIGHTWARDS+1 1SQUARE_WITH_LEFTWARDS+1 3RIGHTWARDS+1
0MATHEMATICAL_LEFT_WHITE_SQUARE_BRACKET 1RIGHT+3 1LEFT_ANGLE+1 1RIGHT+2 1LEFT_DOUBLE+2 1RIGHT+3
1LEFT_WHITE_TORTOISE_SHELL+1 1RIGHT+4 1LEFT_FLATTENED_PARENTHESIS 1RIGHT+2 0UPWARDS_QUADRUPLE_ARROW
0DOWNWARDS+2 0ANTICLOCKWISE_GAPPED_CIRCLE+1 0CLOCKWISE+3 0RIGHT_ARROW_WITH_CIRCLED_PLUS
0LONG_LEFTWARDS_ARROW 1RIGHTWARDS+1 1LEFT_RIGHT+1 1LEFTWARDS_DOUBLE+1 1RIGHTWARDS+2 1LEFT_RIGHT+2
1LEFTWARDS_ARROW_FROM_BAR 1RIGHTWARDS+3 1LEFTWARDS_DOUBLE+3 1RIGHTWARDS+4 2SQUIGGLE_ARROW
0BRAILLE_PATTERN_BLANK 2DOTS-1 2DOTS-2 2DOTS-12 2DOTS-3 2DOTS-13 2DOTS-23 2DOTS-123 2DOTS-4
2DOTS-14 2DOTS-24 2DOTS-124 2DOTS-34 2DOTS-134 2DOTS-234 2DOTS-1234 2DOTS-5 2DOTS-15 2DOTS-25
2DOTS-125 2DOTS-35 2DOTS-135 2DOTS-235 2DOTS-1235 2DOTS-45 2DOTS-145 2DOTS-245 2DOTS-1245 2DOTS-345
2DOTS-1345 2DOTS-2345 2DOTS-12345 2DOTS-6 2DOTS-16 2DOTS-26 2DOTS-126 2DOTS-36 2DOTS-136 2DOTS-236
2DOTS-1236 2DOTS-46 2DOTS-146 2DOTS-246 2DOTS-1246 2DOTS-346 2DOTS-1346 2DOTS-2346 2DOTS-12346
2DOTS-56 2DOTS-156 2DOTS-256 2DOTS-1256 2DOTS-356 2DOTS-1356 2DOTS-2356 2DOTS-12356 2DOTS-456
2DOTS-1456 2DOTS-2456 2DOTS-12456 2DOTS-3456 2DOTS-13456 2DOTS-23456 2DOTS-123456 2DOTS-7 2DOTS-17
2DOTS-27 2DOTS-127 2DOTS-37 2DOTS-137 2DOTS-237 2DOTS-1237 2DOTS-47 2DOTS-147 2DOTS-247 2DOTS-1247
2DOTS-347 2DOTS-1347 2DOTS-2347 2DOTS-12347 2DOTS-57 2DOTS-157 2DOTS-257 2DOTS-1257 2DOTS-357
2DOTS-1357 2DOTS-2357 2DOTS-12357 2DOTS-457 2DOTS-1457 2DOTS-2457 2DOTS-12457 2DOTS-3457
2DOTS-13457 2DOTS-23457 2DOTS-123457 2DOTS-67 2DOTS-167 2DOTS-267 2DOTS-1267 2DOTS-367 2DOTS-1367
2DOTS-2367 2DOTS-12367 2DOTS-467 2DOTS-1467 2DOTS-2467 2DOTS-12467 2DOTS-3467 2DOTS-13467
2DOTS-23467 2DOTS-123467 2DOTS-567 2DOTS-1567 2DOTS-2567 2DOTS-12567 2DOTS-3567 2DOTS-13567
2DOTS-23567 2DOTS-123567 2DOTS-4567 2DOTS-14567 2DOTS-24567 2DOTS-124567 2DOTS-34567 2DOTS-134567
2DOTS-234567 2DOTS-1234567 2DOTS-8 2DOTS-18 2DOTS-28 2DOTS-128 2DOTS-38 2DOTS-138 2DOTS-238
2DOTS-1238 2DOTS-48 2DOTS-148 2DOTS-248 2DOTS-1248 2DOTS-348 2DOTS-1348 2DOTS-2348 2DOTS-12348
2DOTS-58 2DOTS-158 2DOTS-258 2DOTS-1258 2DOTS-358 2DOTS-1358 2DOTS-2358 2DOTS-12358 2DOTS-458
2DOTS-1458 2DOTS-2458 2DOTS-12458 2DOTS-3458 2DOTS-13458 2DOTS-23458 2DOTS-123458 2DOTS-68
2DOTS-168 2DOTS-268 2DOTS-1268 2DOTS-368 2DOTS-1368 2DOTS-2368 2DOTS-12368 2DOTS-468 2DOTS-1468
2DOTS-2468 2DOTS-12468 2DOTS-3468 2DOTS-13468 2DOTS-23468 2DOTS-123468 2DOTS-568 2DOTS-1568
2DOTS-2568 2DOTS-12568 2DOTS-3568 2DOTS-13568 2DOTS-23568 2DOTS-123568 2DOTS-4568 2DOTS-14568
2DOTS-24568 2DOTS-124568 2DOTS-34568 2DOTS-134568 2DOTS-234568 2DOTS-1234568 2DOTS-78 2DOTS-178
2DOTS-278 2DOTS-1278 2DOTS-378 2DOTS-1378 2DOTS-2378 2DOTS-12378 2DOTS-478 2DOTS-1478 2DOTS-2478
2DOTS-12478 2DOTS-3478 2DOTS-13478 2DOTS-23478 2DOTS-123478 2DOTS-578 2DOTS-1578 2DOTS-2578
2DOTS-12578 2DOTS-3578 2DOTS-13578 2DOTS-23578 2DOTS-123578 2DOTS-4578 2DOTS-14578 2DOTS-24578
2DOTS-124578 2DOTS-34578 2DOTS-134578 2DOTS-234578 2DOTS-1234578 2DOTS-678 2DOTS-1678 2DOTS-2678
2DOTS-12678 2DOTS-3678 2DOTS-13678 2DOTS-23678 2DOTS-123678 2DOTS-4678 2DOTS-14678 2DOTS-24678
2DOTS-124678 2DOTS-34678 2DOTS-134678 2DOTS-234678 2DOTS-1234678 2DOTS-5678 2DOTS-15678 2DOTS-25678
2DOTS-125678 2DOTS-35678 2DOTS-135678 2DOTS-235678 2DOTS-1235678 2DOTS-45678 2DOTS-145678
2DOTS-245678 2DOTS-1245678 2DOTS-345678 2DOTS-1345678 2DOTS-2345678 2DOTS-12345678
0RIGHTWARDS_TWO-HEADED_ARROW_WITH_VERTICAL_STROKE 4DOUBLE+2 0LEFTWARDS_DOUBLE_ARROW_WITH+2
0RIGHTWARDS+5 0LEFT_RIGHT+5 0RIGHTWARDS_TWO-HEADED_ARROW_FROM_BAR 0LEFTWARDS_DOUBLE+3 0RIGHTWARDS+4
0DOWNWARDS_ARROW_WITH_HORIZONTAL_STROKE 0UPWARDS+4 1TRIPLE_ARROW 0DOWNWARDS+2
0LEFTWARDS_DOUBLE_DASH+1 0RIGHTWARDS+3 0LEFTWARDS_TRIPLE+2 0RIGHTWARDS+3 1TWO-HEADED+3
1ARROW_WITH_DOTTED_STEM 0UPWARDS_ARROW_TO_BAR 0DOWNWARDS+3
0RIGHTWARDS_ARROW_WITH_TAIL_WITH_VERTICAL_STROKE 5DOUBLE+2 1TWO-HEADED_ARROW_WITH_TAIL
5WITH_VERTICAL_STROKE 6DOUBLE+2 0LEFTWARDS_ARROW-TAIL 0RIGHTWARDS+1 0LEFTWARDS_DOUBLE+1
0RIGHTWARDS+2 0LEFTWARDS_ARROW_TO_BLACK_DIAMOND 0RIGHTWARDS+4 0LEFTWARDS_ARROW_FROM_BAR+3
0RIGHTWARDS+6 0NORTH_WEST_AND_SOUTH_EAST_ARROW 1EAST_AND_SOUTH_WEST+1 1WEST_ARROW_WITH_HOOK 1EAST+3
0SOUTH+4 1WEST+3 0NORTH_WEST_ARROW_AND_NORTH_EAST_ARROW 1EAST_ARROW_AND_SOUTH+2
0SOUTH_EAST_ARROW_AND_SOUTH_WEST+1 1WEST_ARROW_AND_NORTH+2
0RISING_DIAGONAL_CROSSING_FALLING_DIAGONAL 0FALLING_DIAGONAL_CROSSING_RISING+1
0SOUTH_EAST_ARROW_CROSSING_NORTH_EAST_ARROW 0NORTH_EAST_ARROW_CROSSING_SOUTH+2
0FALLING_DIAGONAL_CROSSING_NORTH+2 0RISING_DIAGONAL_CROSSING_SOUTH+2
0NORTH_EAST_ARROW_CROSSING_NORTH_WEST+1 1WEST_ARROW_CROSSING_NORTH_EAST+1
0WAVE_ARROW_POINTING_DIRECTLY_RIGHT 0ARROW_POINTING_RIGHTWARDS_THEN_CURVING_UPWARDS 5DOWNWARDS
2DOWNWARDS_THEN_CURVING_LEFTWARDS 5RIGHTWARDS 0RIGHT-SIDE_ARC_CLOCKWISE_ARROW
0LEFT-SIDE_ARC_ANTICLOCKWISE+1 0TOP+3 0BOTTOM+3 0TOP_ARC_CLOCKWISE_ARROW_WITH_MINUS
2ANTICLOCKWISE_ARROW_WITH_PLUS 0LOWER_RIGHT_SEMICIRCULAR_CLOCKWISE_ARROW
1LEFT_SEMICIRCULAR_ANTICLOCKWISE+1 0ANTICLOCKWISE_CLOSED_CIRCLE+1 0CLOCKWISE+3
0RIGHTWARDS_ARROW_ABOVE_SHORT_LEFTWARDS+1 0LEFTWARDS_ARROW_ABOVE_SHORT_RIGHTWARDS+1
0SHORT_RIGHTWARDS_ARROW_ABOVE_LEFTWARDS+1 0RIGHTWARDS_ARROW_WITH_PLUS_BELOW 0LEFTWARDS+4
0RIGHTWARDS_ARROW_THROUGH_X 0LEFT_RIGHT_ARROW_THROUGH_SMALL_CIRCLE 0UPWARDS_TWO-HEADED_ARROW_FROM+2
0LEFT_BARB_UP_RIGHT_BARB_DOWN_HARPOON 2DOWN_RIGHT_BARB_UP+1 0UP_BARB_RIGHT_DOWN_BARB_LEFT+1
2LEFT_DOWN_BARB_RIGHT+1 0LEFT_BARB_UP_RIGHT_BARB_UP+1 0UP_BARB_RIGHT_DOWN_BARB_RIGHT+1
0LEFT_BARB_DOWN_RIGHT_BARB_DOWN+1 0UP_BARB_LEFT_DOWN_BARB_LEFT+1
0LEFTWARDS_HARPOON_WITH_BARB_UP_TO_BAR 0RIGHTWARDS+6 0UPWARDS_HARPOON_WITH_BARB_RIGHT+2
0DOWNWARDS+6 0LEFTWARDS_HARPOON_WITH_BARB_DOWN+2 0RIGHTWARDS+6 0UPWARDS_HARPOON_WITH_BARB_LEFT+2
0DOWNWARDS+6 0LEFTWARDS_HARPOON_WITH_BARB_UP_FROM+1 0RIGHTWARDS+6
0UPWARDS_HARPOON_WITH_BARB_RIGHT+2 0DOWNWARDS+6 0LEFTWARDS_HARPOON_WITH_BARB_DOWN+2 0RIGHTWARDS+6
0UPWARDS_HARPOON_WITH_BARB_LEFT+2 0DOWNWARDS+6
0LEFTWARDS_HARPOON_WITH_BARB_UP_ABOVE_LEFTWARDS_HARPOON_WITH_BARB_DOWN
0UPWARDS_HARPOON_WITH_BARB_LEFT_BESIDE_UPWARDS_HARPOON_WITH_BARB_RIGHT
0RIGHTWARDS_HARPOON_WITH_BARB_UP_ABOVE_RIGHTWARDS_HARPOON_WITH_BARB_DOWN
0DOWNWARDS_HARPOON_WITH_BARB_LEFT_BESIDE_DOWNWARDS_HARPOON_WITH_BARB_RIGHT
0LEFTWARDS_HARPOON_WITH_BARB_UP_ABOVE_RIGHTWARDS_HARPOON_WITH_BARB_UP
4DOWN_ABOVE_RIGHTWARDS_HARPOON_WITH_BARB_DOWN
0RIGHTWARDS_HARPOON_WITH_BARB_UP_ABOVE_LEFTWARDS_HARPOON_WITH_BARB_UP
4DOWN_ABOVE_LEFTWARDS_HARPOON_WITH_BARB_DOWN 0LEFTWARDS_HARPOON_WITH_BARB_UP_ABOVE_LONG_DASH
4DOWN_BELOW+2 0RIGHTWARDS_HARPOON_WITH_BARB_UP_ABOVE+2 4DOWN_BELOW+2
0UPWARDS_HARPOON_WITH_BARB_LEFT_BESIDE_DOWNWARDS_HARPOON_WITH_BARB_RIGHT
0DOWNWARDS_HARPOON_WITH_BARB_LEFT_BESIDE_UPWARDS+4 0RIGHT_DOUBLE_ARROW_WITH_ROUNDED_HEAD
0EQUALS_SIGN_ABOVE_RIGHTWARDS_ARROW 0TILDE_OPERATOR+3 0LEFTWARDS_ARROW_ABOVE_TILDE_OPERATOR
0RIGHTWARDS+4 3ALMOST_EQUAL_TO 0LESS-THAN_ABOVE_LEFTWARDS_ARROW 0LEFTWARDS_ARROW_THROUGH_LESS-THAN
0GREATER-THAN_ABOVE_RIGHTWARDS_ARROW 0SUBSET+3 0LEFTWARDS_ARROW_THROUGH_SUBSET
0SUPERSET_ABOVE_LEFTWARDS_ARROW 0LEFT_FISH_TAIL 0RIGHT+2 0UP+2 0DOWN+2
0TRIPLE_VERTICAL_BAR_DELIMITER 0Z_NOTATION_SPOT 2TYPE_COLON 0LEFT_WHITE_CURLY_BRACKET 0RIGHT+3
0LEFT_WHITE_PARENTHESIS 0RIGHT+2 0Z_NOTATION_LEFT_IMAGE_BRACKET 2RIGHT+2 2LEFT_BINDING+1 2RIGHT+2
0LEFT_SQUARE_BRACKET_WITH_UNDERBAR 0RIGHT+4 0LEFT_SQUARE_BRACKET_WITH_TICK_IN_TOP_CORNER
0RIGHT_SQUARE_BRACKET_WITH_TICK_IN_BOTTOM+1 0LEFT+7 0RIGHT_SQUARE_BRACKET_WITH_TICK_IN_TOP+1
0LEFT_ANGLE_BRACKET_WITH_DOT 0RIGHT+4 0LEFT_ARC_LESS-THAN_BRACKET 0RIGHT_ARC_GREATER-THAN+1
0DOUBLE_LEFT+3 1RIGHT_ARC_LESS-THAN+1 0LEFT_BLACK_TORTOISE_SHELL+1 0RIGHT+4 0DOTTED_FENCE
0VERTICAL_ZIGZAG_LINE 0MEASURED_ANGLE_OPENING_LEFT 0RIGHT_ANGLE_VARIANT_WITH_SQUARE
0MEASURED_RIGHT_ANGLE_WITH_DOT 0ANGLE_WITH_S_INSIDE 0ACUTE_ANGLE 0SPHERICAL_ANGLE_OPENING_LEFT 3UP
0TURNED_ANGLE 0REVERSED+1 0ANGLE_WITH_UNDERBAR 0REVERSED+3 0OBLIQUE_ANGLE_OPENING_UP 3DOWN
0MEASURED_ANGLE_WITH_OPEN_ARM_ENDING_IN_ARROW_POINTING_UP_AND_RIGHT bLEFT 9DOWN_AND_RIGHT bLEFT
9RIGHT_AND_UP 9LEFT+2 9RIGHT_AND_DOWN 9LEFT+2 0REVERSED_EMPTY_SET 0EMPTY_SET_WITH_OVERBAR
3SMALL_CIRCLE_ABOVE 3RIGHT_ARROW+1 3LEFT+2 0CIRCLE_WITH_HORIZONTAL_BAR 0CIRCLED_VERTICAL+1
1PARALLEL 1REVERSE_SOLIDUS 1PERPENDICULAR
0CIRCLE_DIVIDED_BY_HORIZONTAL_BAR_AND_TOP_HALF_DIVIDED_BY_VERTICAL_BAR 1WITH_SUPERIMPOSED_X
0CIRCLED_ANTICLOCKWISE-ROTATED_DIVISION_SIGN 0UP_ARROW_THROUGH_CIRCLE 0CIRCLED_WHITE_BULLET 1+1
1LESS-THAN 1GREATER-THAN 0CIRCLE_WITH_SMALL_CIRCLE_TO_THE_RIGHT 2TWO_HORIZONTAL_STROKES+3
0SQUARED_RISING_DIAGONAL_SLASH 1FALLING+2 1ASTERISK 1SMALL_CIRCLE 1SQUARE 0TWO_JOINED_SQUARES
0TRIANGLE_WITH_DOT_ABOVE 2UNDERBAR 0S_IN_TRIANGLE 0TRIANGLE_WITH_SERIFS_AT_BOTTOM
0RIGHT_TRIANGLE_ABOVE_LEFT_TRIANGLE 0LEFT_TRIANGLE_BESIDE_VERTICAL_BAR
0VERTICAL_BAR_BESIDE_RIGHT_TRIANGLE 0BOWTIE_WITH_LEFT_HALF_BLACK 2RIGHT+2 0BLACK_BOWTIE
0TIMES_WITH_LEFT_HALF_BLACK 2RIGHT+2 0WHITE_HOURGLASS 0BLACK+1 0LEFT_WIGGLY_FENCE 0RIGHT+2
0LEFT_DOUBLE+2 0RIGHT+3 0INCOMPLETE_INFINITY 0TIE_OVER+1 0INFINITY_NEGATED_WITH_VERTICAL_BAR
0DOUBLE-ENDED_MULTIMAP 0SQUARE_WITH_CONTOURED_OUTLINE 0INCREASES_AS 0SHUFFLE_PRODUCT
0EQUALS_SIGN_AND_SLANTED_PARALLEL 5WITH_TILDE_ABOVE 0IDENTICAL_TO_AND_SLANTED_PARALLEL
0GLEICH_STARK 0THERMODYNAMIC 0DOWN-POINTING_TRIANGLE_WITH_LEFT_HALF_BLACK 3RIGHT+2
0BLACK_DIAMOND_WITH_DOWN_ARROW 1LOZENGE 0WHITE_CIRCLE_WITH_DOWN_ARROW 0BLACK+4
0ERROR-BARRED_WHITE_SQUARE 1BLACK+1 1WHITE_DIAMOND 1BLACK+1 1WHITE_CIRCLE 1BLACK+1 0RULE-DELAYED
0REVERSE_SOLIDUS_OPERATOR 0SOLIDUS_WITH_OVERBAR 0REVERSE_SOLIDUS_WITH_HORIZONTAL_STROKE
0BIG_SOLIDUS 1REVERSE+1 0DOUBLE_PLUS 0TRIPLE+1 0LEFT-POINTING_CURVED_ANGLE_BRACKET
0RIGHT-POINTING+3 0TINY 0MINY 0N-ARY_CIRCLED_DOT_OPERATOR 2PLUS+1 2TIMES+1 1UNION_OPERATOR_WITH_DOT
4PLUS 1SQUARE_INTERSECTION_OPERATOR 2UNION+1 0TWO_LOGICAL_AND+1 2OR+1 0N-ARY_TIMES+1
0MODULO_TWO_SUM 0SUMMATION_WITH_INTEGRAL 0QUADRUPLE_INTEGRAL_OPERATOR 0FINITE_PART_INTEGRAL
0INTEGRAL_WITH_DOUBLE_STROKE 1AVERAGE_WITH_SLASH 0CIRCULATION_FUNCTION 0ANTICLOCKWISE_INTEGRATION
0LINE_INTEGRATION_WITH_RECTANGULAR_PATH_AROUND_POLE 3SEMICIRCULAR+3 2NOT_INCLUDING_THE+1
0INTEGRAL_AROUND_A_POINT_OPERATOR 0QUATERNION_INTEGRAL+1 0INTEGRAL_WITH_LEFTWARDS_ARROW_WITH_HOOK
2TIMES_SIGN 2INTERSECTION 2UNION 2OVERBAR 2UNDERBAR 0JOIN 0LARGE_LEFT_TRIANGLE_OPERATOR
0Z_NOTATION_SCHEMA_COMPOSITION 3PIPING 3PROJECTION 0PLUS_SIGN_WITH_SMALL_CIRCLE_ABOVE
3CIRCUMFLEX_ACCENT+1 3TILDE+1 3DOT_BELOW 3TILDE+1 3SUBSCRIPT_TWO 3BLACK_TRIANGLE
0MINUS_SIGN_WITH_COMMA_ABOVE 3DOT_BELOW 3FALLING_DOTS 3RISING+1 0PLUS_SIGN_IN_LEFT_HALF_CIRCLE
3RIGHT+2 0VECTOR_OR_CROSS_PRODUCT 0MULTIPLICATION_SIGN_WITH_DOT_ABOVE 3UNDERBAR
0SEMIDIRECT_PRODUCT_WITH_BOTTOM_CLOSED 0SMASH_PRODUCT 0MULTIPLICATION_SIGN_IN_LEFT_HALF_CIRCLE
3RIGHT+2 0CIRCLED_MULTIPLICATION_SIGN_WITH_CIRCUMFLEX_ACCENT 0MULTIPLICATION_SIGN_IN_DOUBLE_CIRCLE
0CIRCLED_DIVISION_SIGN 0PLUS_SIGN_IN_TRIANGLE 0MINUS+3 0MULTIPLICATION+3 0INTERIOR_PRODUCT
0RIGHTHAND+2 0Z_NOTATION_RELATIONAL_COMPOSITION 0AMALGAMATION_OR_COPRODUCT 0INTERSECTION_WITH_DOT
0UNION_WITH_MINUS_SIGN 2OVERBAR 0INTERSECTION+2 2LOGICAL_AND 0UNION_WITH_LOGICAL_OR
1ABOVE_INTERSECTION 0INTERSECTION_ABOVE_UNION 0UNION_ABOVE_BAR_ABOVE_INTERSECTION
0INTERSECTION_ABOVE_BAR_ABOVE_UNION 0UNION_BESIDE_AND_JOINED_WITH+1
0INTERSECTION_BESIDE_AND_JOINED_WITH_INTERSECTION 0CLOSED_UNION_WITH_SERIFS 1INTERSECTION+2
0DOUBLE_SQUARE_INTERSECTION 2UNION 0CLOSED_UNION_WITH_SERIFS_AND_SMASH_PRODUCT
0LOGICAL_AND_WITH_DOT_ABOVE 1OR+3 0DOUBLE_LOGICAL_AND 2OR 0TWO_INTERSECTING_LOGICAL_AND 3OR
0SLOPING_LARGE+1 2AND 0LOGICAL_OR_OVERLAPPING_LOGICAL+1 1AND_WITH_MIDDLE_STEM 1OR+3
1AND_WITH_HORIZONTAL_DASH 1OR+3 1AND_WITH_DOUBLE_OVERBAR 3UNDERBAR 3DOUBLE+1 0SMALL_VEE_WITH+1
0LOGICAL_OR_WITH_DOUBLE_OVERBAR 4UNDERBAR 0Z_NOTATION_DOMAIN_ANTIRESTRICTION 2RANGE+1
0EQUALS_SIGN_WITH_DOT_BELOW 0IDENTICAL_WITH_DOT_ABOVE
0TRIPLE_HORIZONTAL_BAR_WITH_DOUBLE_VERTICAL_STROKE 4TRIPLE+2 0TILDE_OPERATOR_WITH_DOT_ABOVE
3RISING_DOTS 0SIMILAR_MINUS_SIMILAR 0CONGRUENT_WITH_DOT_ABOVE 0EQUALS_WITH_ASTERISK
0ALMOST_EQUAL_TO_WITH_CIRCUMFLEX_ACCENT 0APPROXIMATELY_EQUAL_OR_EQUAL_TO
0EQUALS_SIGN_ABOVE_PLUS_SIGN 0PLUS_SIGN_ABOVE_EQUALS+1 0EQUALS_SIGN_ABOVE_TILDE_OPERATOR
0DOUBLE_COLON_EQUAL 0TWO_CONSECUTIVE_EQUALS_SIGNS 0THREE+3
0EQUALS_SIGN_WITH_TWO_DOTS_ABOVE_AND_TWO_DOTS_BELOW 0EQUIVALENT_WITH_FOUR_DOTS_ABOVE
0LESS-THAN_WITH_CIRCLE_INSIDE 0GREATER-THAN+3 0LESS-THAN_WITH_QUESTION_MARK_ABOVE 0GREATER-THAN+4
0LESS-THAN_OR_SLANTED_EQUAL_TO 0GREATER-THAN+4 0LESS-THAN_OR_SLANTED_EQUAL_TO_WITH_DOT_INSIDE
0GREATER-THAN+7 0LESS-THAN_OR_SLANTED_EQUAL_TO_WITH_DOT_ABOVE 0GREATER-THAN+7
0LESS-THAN_OR_SLANTED_EQUAL_TO_WITH_DOT_ABOVE_RIGHT
0GREATER-THAN_OR_SLANTED_EQUAL_TO_WITH_DOT_ABOVE_LEFT 0LESS-THAN_OR_APPROXIMATE 0GREATER-THAN+2
0LESS-THAN_AND_SINGLE-LINE_NOT_EQUAL_TO 0GREATER-THAN+5 0LESS-THAN_AND_NOT_APPROXIMATE
0GREATER-THAN+3 0LESS-THAN_ABOVE_DOUBLE-LINE_EQUAL_ABOVE_GREATER-THAN
0GREATER-THAN_ABOVE_DOUBLE-LINE_EQUAL_ABOVE_LESS-THAN 0LESS-THAN_ABOVE_SIMILAR_OR_EQUAL
0GREATER-THAN+4 0LESS-THAN_ABOVE_SIMILAR_ABOVE_GREATER-THAN
0GREATER-THAN_ABOVE_SIMILAR_ABOVE_LESS-THAN 0LESS-THAN_ABOVE_GREATER-THAN_ABOVE_DOUBLE-LINE_EQUAL
0GREATER-THAN_ABOVE_LESS-THAN+3 0LESS-THAN_ABOVE_SLANTED_EQUAL_ABOVE_GREATER-THAN_ABOVE_SLANTED+1
0GREATER-THAN_ABOVE_SLANTED_EQUAL_ABOVE_LESS-THAN+3 0SLANTED_EQUAL_TO_OR_LESS-THAN 4GREATER-THAN
4LESS-THAN_WITH_DOT_INSIDE 4GREATER-THAN+3 0DOUBLE-LINE_EQUAL_TO_OR_LESS-THAN 4GREATER-THAN
1SLANTED_EQUAL_TO_OR_LESS-THAN 5GREATER-THAN 0SIMILAR_OR_LESS-THAN 2GREATER-THAN
1ABOVE_LESS-THAN_ABOVE_EQUALS_SIGN 2GREATER-THAN+3 0DOUBLE_NESTED_LESS-THAN 2GREATER-THAN
2LESS-THAN_WITH_UNDERBAR 0GREATER-THAN_OVERLAPPING_LESS-THAN 1BESIDE+1 0LESS-THAN_CLOSED_BY_CURVE
0GREATER-THAN+3 0LESS-THAN_CLOSED_BY_CURVE_ABOVE_SLANTED_EQUAL 0GREATER-THAN+6 0SMALLER_THAN
0LARGER+1 0SMALLER_THAN_OR_EQUAL_TO 0LARGER+4 0EQUALS_SIGN_WITH_BUMPY_ABOVE
0PRECEDES_ABOVE_SINGLE-LINE_EQUALS_SIGN 0SUCCEEDS+4 0PRECEDES_ABOVE_SINGLE-LINE_NOT_EQUAL_TO
0SUCCEEDS+5 0PRECEDES_ABOVE_EQUALS_SIGN 0SUCCEEDS+3 0PRECEDES_ABOVE_NOT_EQUAL_TO 0SUCCEEDS+4
0PRECEDES_ABOVE_ALMOST+2 0SUCCEEDS+4 0PRECEDES_ABOVE_NOT+3 0SUCCEEDS+5 0DOUBLE_PRECEDES 1SUCCEEDS
0SUBSET_WITH_DOT 0SUPERSET+2 0SUBSET_WITH_PLUS_SIGN_BELOW 0SUPERSET+4 0SUBSET_WITH_MULTIPLICATION+2
0SUPERSET+4 0SUBSET_OF_OR_EQUAL_TO_WITH_DOT_ABOVE 0SUPERSET+7 0SUBSET_OF_ABOVE_EQUALS_SIGN
0SUPERSET+4 0SUBSET_OF_ABOVE_TILDE_OPERATOR 0SUPERSET+4 0SUBSET_OF_ABOVE_ALMOST_EQUAL_TO
0SUPERSET+5 0SUBSET_OF_ABOVE_NOT+2 0SUPERSET+5 0SQUARE_LEFT_OPEN_BOX_OPERATOR 1RIGHT+3
0CLOSED_SUBSET 1SUPERSET 1SUBSET_OR_EQUAL_TO 1SUPERSET+3 0SUBSET_ABOVE_SUPERSET
0SUPERSET_ABOVE_SUBSET 0SUBSET+2 0SUPERSET_ABOVE_SUPERSET 1BESIDE_SUBSET 2AND_JOINED_BY_DASH_WITH+1
0ELEMENT_OF_OPENING_DOWNWARDS 0PITCHFORK_WITH_TEE_TOP 0TRANSVERSAL_INTERSECTION 0FORKING
0NONFORKING 0SHORT_LEFT_TACK 1DOWN+1 1UP+1 0PERPENDICULAR_WITH_S
0VERTICAL_BAR_TRIPLE_RIGHT_TURNSTILE 0DOUBLE_VERTICAL_BAR_LEFT+1 0VERTICAL_BAR_DOUBLE+2 0DOUBLE+5
0LONG_DASH_FROM_LEFT_MEMBER_OF_DOUBLE_VERTICAL 0SHORT_DOWN_TACK_WITH_OVERBAR 1UP_TACK_WITH_UNDERBAR
3ABOVE_SHORT_DOWN_TACK 0DOUBLE+2 1UP+1 1STROKE_NOT_SIGN 0REVERSED+4
0DOES_NOT_DIVIDE_WITH_REVERSED_NEGATION_SLASH 0VERTICAL_LINE_WITH_CIRCLE_ABOVE 4BELOW 0DOWN_TACK+3
0PARALLEL_WITH_HORIZONTAL_STROKE 2TILDE_OPERATOR 0TRIPLE_VERTICAL_BAR_BINARY_RELATION
3WITH_HORIZONTAL_STROKE 1COLON_OPERATOR 1NESTED_LESS-THAN 2GREATER-THAN
0DOUBLE-LINE_SLANTED_LESS-THAN_OR_EQUAL_TO 2GREATER-THAN+3 0TRIPLE_SOLIDUS_BINARY_RELATION
0LARGE_TRIPLE_VERTICAL_BAR_OPERATOR 0DOUBLE_SOLIDUS+1 0WHITE_VERTICAL_BAR 0N-ARY+3
0NORTH_EAST_WHITE_ARROW 1WEST+2 0SOUTH_EAST+2 1WEST+2 0LEFT_RIGHT+2 0LEFTWARDS_BLACK+1 0UPWARDS+2
0DOWNWARDS+2 0NORTH_EAST+2 1WEST+2 0SOUTH_EAST+2 1WEST+2 0LEFT_RIGHT+2 0UP_DOWN+2
0RIGHTWARDS_ARROW_WITH_TIP_DOWNWARDS 4UPWARDS 0LEFTWARDS_ARROW_WITH_TIP_DOWNWARDS 4UPWARDS
0SQUARE_WITH_TOP_HALF_BLACK 2BOTTOM+2 2UPPER_RIGHT_DIAGONAL+2 2LOWER_LEFT+3 0DIAMOND_WITH_LEFT+2
2RIGHT+2 2TOP+2 2BOTTOM+2 0DOTTED_SQUARE 0BLACK_LARGE+1 0WHITE+2 0BLACK_VERY_SMALL+1 0WHITE+3
0BLACK_PENTAGON 0WHITE+1 1HEXAGON 0BLACK+1 0HORIZONTAL+2 0BLACK_LARGE_CIRCLE 1MEDIUM_DIAMOND
0WHITE+2 0BLACK_MEDIUM_LOZENGE 0WHITE+2 0BLACK_SMALL_DIAMOND 2LOZENGE 0WHITE+2
0BLACK_HORIZONTAL_ELLIPSE 0WHITE+2 0BLACK_VERTICAL+1 0WHITE+2 0LEFT_ARROW_WITH_SMALL_CIRCLE
0THREE_LEFTWARDS_ARROWS 0LEFT_ARROW_WITH_CIRCLED_PLUS 0LONG_LEFTWARDS_SQUIGGLE_ARROW
0LEFTWARDS_TWO-HEADED_ARROW_WITH_VERTICAL_STROKE 4DOUBLE+2 3FROM_BAR 2TRIPLE_DASH_ARROW
1ARROW_WITH_DOTTED_STEM 3TAIL_WITH_VERTICAL_STROKE 5DOUBLE+2 1TWO-HEADED_ARROW_WITH_TAIL
5WITH_VERTICAL_STROKE 6DOUBLE+2 1ARROW_THROUGH_X 0WAVE_ARROW_POINTING_DIRECTLY_LEFT
0EQUALS_SIGN_ABOVE_LEFTWARDS_ARROW 0REVERSE_TILDE_OPERATOR+3
0LEFTWARDS_ARROW_ABOVE_REVERSE_ALMOST_EQUAL_TO 0RIGHTWARDS_ARROW_THROUGH_GREATER-THAN 3SUPERSET
0LEFTWARDS_QUADRUPLE_ARROW 0RIGHTWARDS+2 0REVERSE_TILDE_OPERATOR_ABOVE_RIGHTWARDS+1
0RIGHTWARDS_ARROW_ABOVE_REVERSE_ALMOST_EQUAL_TO 0TILDE_OPERATOR_ABOVE_LEFTWARDS_ARROW
0LEFTWARDS_ARROW_ABOVE_ALMOST_EQUAL_TO 3REVERSE_TILDE_OPERATOR 0RIGHTWARDS+5
0DOWNWARDS_TRIANGLE-HEADED_ZIGZAG_ARROW 0SHORT_SLANTED_NORTH+1 1BACKSLANTED_SOUTH+1
0WHITE_MEDIUM_STAR 0BLACK_SMALL+1 0WHITE+2 0BLACK_RIGHT-POINTING_PENTAGON 0WHITE+2
0HEAVY_LARGE_CIRCLE 1OVAL_WITH_OVAL_INSIDE 1CIRCLE_WITH_CIRCLE+1 2 1CIRCLED_SALTIRE
0SLANTED_NORTH_ARROW_WITH_HOOKED_HEAD 0BACKSLANTED_SOUTH_ARROW_WITH_HOOKED_TAIL
0SLANTED_NORTH_ARROW_WITH_HORIZONTAL+1 0BACKSLANTED_SOUTH+4
0BENT_ARROW_POINTING_DOWNWARDS_THEN_NORTH_EAST 0SHORT+7 0LEFTWARDS_TRIANGLE-HEADED_ARROW 0UPWARDS+2
0RIGHTWARDS+2 0DOWNWARDS+2 0LEFT_RIGHT+2 0UP_DOWN+2 0NORTH_WEST+2 1EAST+2 0SOUTH+3 1WEST+2
0LEFTWARDS_TRIANGLE-HEADED_DASHED+1 0UPWARDS+3 0RIGHTWARDS+3 0DOWNWARDS+3
0CLOCKWISE_TRIANGLE-HEADED_OPEN_CIRCLE+1 0ANTICLOCKWISE+4 0LEFTWARDS_TRIANGLE-HEADED_ARROW_TO_BAR
0UPWARDS+4 0RIGHTWARDS+4 0DOWNWARDS+4 @2B76 0NORTH_WEST+4 1EAST+4 0SOUTH+5 1WEST+4
0LEFTWARDS_TRIANGLE-HEADED_ARROW_WITH_DOUBLE_HORIZONTAL_STROKE 0UPWARDS+6 0RIGHTWARDS+6
0DOWNWARDS+6 0HORIZONTAL_TAB_KEY 0VERTICAL+2
0LEFTWARDS_TRIANGLE-HEADED_ARROW_OVER_RIGHTWARDS_TRIANGLE-HEADED_ARROW
0UPWARDS_TRIANGLE-HEADED_ARROW_LEFTWARDS_OF_DOWNWARDS+2
0RIGHTWARDS_TRIANGLE-HEADED_ARROW_OVER_LEFTWARDS+2
0DOWNWARDS_TRIANGLE-HEADED_ARROW_LEFTWARDS_OF_UPWARDS+2 0LEFTWARDS_TRIANGLE-HEADED_PAIRED_ARROWS
0UPWARDS+3 0RIGHTWARDS+3 0DOWNWARDS+3 0LEFTWARDS_BLACK_CIRCLED_WHITE_ARROW 0UPWARDS+4 0RIGHTWARDS+4
0DOWNWARDS+4 0ANTICLOCKWISE_TRIANGLE-HEADED_RIGHT_U-SHAPED+1 2BOTTOM+2 2LEFT+2 2TOP+2 0RETURN_LEFT
1RIGHT 0NEWLINE_LEFT 1RIGHT 0FOUR_CORNER_ARROWS_CIRCLING_ANTICLOCKWISE 0RIGHTWARDS_BLACK_ARROW
@2B97 0SYMBOL_FOR_TYPE_A_ELECTRONICS 0THREE-D_TOP-LIGHTED_LEFTWARDS_EQUILATERAL_ARROWHEAD
1RIGHT-LIGHTED_UPWARDS+2 1TOP-LIGHTED_RIGHTWARDS+2 1LEFT-LIGHTED_DOWNWARDS+2 0BLACK_LEFTWARDS+2
1UPWARDS+2 1RIGHTWARDS+2 1DOWNWARDS+2 0DOWNWARDS_TRIANGLE-HEADED_ARROW_WITH_LONG_TIP_LEFTWARDS
6RIGHTWARDS 0UPWARDS_TRIANGLE-HEADED_ARROW_WITH_LONG_TIP_LEFTWARDS 6RIGHTWARDS
0LEFTWARDS_TRIANGLE-HEADED_ARROW_WITH_LONG_TIP_UPWARDS 0RIGHTWARDS+6
0LEFTWARDS_TRIANGLE-HEADED_ARROW_WITH_LONG_TIP_DOWNWARDS 0RIGHTWARDS+6
0BLACK_CURVED_DOWNWARDS_AND_LEFTWARDS_ARROW 4RIGHTWARDS+1 2UPWARDS_AND_LEFTWARDS+1 4RIGHTWARDS+1
2LEFTWARDS_AND_UPWARDS+1 2RIGHTWARDS+3 2LEFTWARDS_AND_DOWNWARDS+1 2RIGHTWARDS+3
0RIBBON_ARROW_DOWN_LEFT 3RIGHT 2UP_LEFT 3RIGHT 2LEFT_UP 2RIGHT+1 2LEFT_DOWN 2RIGHT+1
0UPWARDS_WHITE_ARROW_FROM_BAR_WITH_HORIZONTAL_BAR 0UP_ARROWHEAD_IN_A_RECTANGLE_BOX
0OVERLAPPING_WHITE_SQUARES 2AND_BLACK+1 1+2 0BALLOT_BOX_WITH_LIGHT_X 0CIRCLED+1 1BOLD+1
0BLACK_SQUARE_CENTRED 1DIAMOND+1 0TURNED_BLACK_PENTAGON 0HORIZONTAL_BLACK_OCTAGON 0+2
1MEDIUM_UP-POINTING_TRIANGLE_CENTRED 2DOWN-POINTING+2 2LEFT-POINTING+2 2RIGHT-POINTING+2
0NEPTUNE_FORM_TWO 0TOP_HALF_BLACK_CIRCLE 0BOTTOM+3 0LIGHT_FOUR_POINTED_BLACK_CUSP 0ROTATED+5
0WHITE_FOUR_POINTED+1 0ROTATED+4 0SQUARE_POSITION_INDICATOR 0UNCERTAINTY_SIGN 0GROUP_MARK
0PLUTO_FORM_TWO 2THREE 2FOUR 2FIVE 0TRANSPLUTO 0PROSERPINA 0ASTRAEA 0HYGIEA 0PHOLUS 0NESSUS
0WHITE_MOON_SELENA 0BLACK_DIAMOND_ON_CROSS 0TRUE_LIGHT_MOON_ARTA 0CUPIDO 0HADES 0ZEUS 0KRONOS
0APOLLON 0ADMETOS 0VULCANUS 0POSEIDON 0LEFT_HALF_BLACK_STAR 0RIGHT+3 0STAR_WITH_LEFT_HALF_BLACK
2RIGHT+2 0LEFTWARDS_TWO-HEADED_ARROW_WITH_TRIANGLE_ARROWHEADS 0UPWARDS+5 0RIGHTWARDS+5 0DOWNWARDS+5
0ERIS_FORM_ONE 2TWO 0SEDNA 0RUSSIAN_ASTROLOGICAL_SYMBOL_VIGINTILE 3NOVILE 3QUINTILE 3BINOVILE
3SENTAGON 3TREDECILE 0EQUALS_SIGN_WITH_INFINITY_BELOW 0UNITED_SYMBOL 0SEPARATED+1 0DOUBLED+1
0PASSED+1 0REVERSED_RIGHT_ANGLE 0HELLSCHREIBER_PAUSE_SYMBOL 0GLAGOLITIC_CAPITAL_LETTER_AZU 3BUKY
3VEDE 3GLAGOLI 3DOBRO 3YESTU 3ZHIVETE 3DZELO 3ZEMLJA 3IZHE 3INITIAL+1 3I 3DJERVI 3KAKO 3LJUDIJE
3MYSLITE 3NASHI 3ONU 3POKOJI 3RITSI 3SLOVO 3TVRIDO 3UKU 3FRITU 3HERU 3OTU 3PE 3SHTA 3TSI 3CHRIVI
3SHA 3YERU 3YERI 3YATI 3SPIDERY_HA 3YU 3SMALL_YUS 5WITH_TAIL 3YO 3IOTATED_SMALL_YUS 3BIG+1
3IOTATED+2 3FITA 3IZHITSA 3SHTAPIC 3TROKUTASTI_A 3LATINATE_MYSLITE 3CAUDATE_CHRIVI
1SMALL_LETTER_AZU 3BUKY 3VEDE 3GLAGOLI 3DOBRO 3YESTU 3ZHIVETE 3DZELO 3ZEMLJA 3IZHE 3INITIAL+1 3I
3DJERVI 3KAKO 3LJUDIJE 3MYSLITE 3NASHI 3ONU 3POKOJI 3RITSI 3SLOVO 3TVRIDO 3UKU 3FRITU 3HERU 3OTU
3PE 3SHTA 3TSI 3CHRIVI 3SHA 3YERU 3YERI 3YATI 3SPIDERY_HA 3YU 3SMALL_YUS 5WITH_TAIL 3YO
3IOTATED_SMALL_YUS 3BIG+1 3IOTATED+2 3FITA 3IZHITSA 3SHTAPIC 3TROKUTASTI_A 3LATINATE_MYSLITE
3CAUDATE_CHRIVI 0LATIN_CAPITAL_LETTER_L_WITH_DOUBLE_BAR 1SMALL+5
1CAPITAL_LETTER_L_WITH_MIDDLE_TILDE 3P_WITH_STROKE 3R_WITH_TAIL 1SMALL_LETTER_A_WITH_STROKE
3T_WITH_DIAGONAL+1 1CAPITAL_LETTER_H_WITH_DESCENDER 1SMALL+4 1CAPITAL_LETTER_K+2 1SMALL+4
1CAPITAL_LETTER_Z+2 1SMALL+4 1CAPITAL_LETTER_ALPHA 3M_WITH_HOOK 3TURNED_A 4ALPHA
1SMALL_LETTER_V_WITH_RIGHT_HOOK 1CAPITAL_LETTER_W_WITH+1 1SMALL+4 3V_WITH_CURL
1CAPITAL_LETTER_HALF_H 1SMALL+3 3TAILLESS_PHI 3E_WITH_NOTCH 3TURNED_R_WITH_TAIL
3O_WITH_LOW_RING_INSIDE 1LETTER_SMALL_CAPITAL_TURNED_E 1SUBSCRIPT_SMALL_LETTER_J
0MODIFIER_LETTER_CAPITAL_V 0LATIN_CAPITAL_LETTER_S_WITH_SWASH_TAIL 3Z+3 0COPTIC_CAPITAL_LETTER_ALFA
1SMALL+2 1CAPITAL_LETTER_VIDA 1SMALL+2 1CAPITAL_LETTER_GAMMA 1SMALL+2 1CAPITAL_LETTER_DALDA
1SMALL+2 1CAPITAL_LETTER_EIE 1SMALL+2 1CAPITAL_LETTER_SOU 1SMALL+2 1CAPITAL_LETTER_ZATA 1SMALL+2
1CAPITAL_LETTER_HATE 1SMALL+2 1CAPITAL_LETTER_THETHE 1SMALL+2 1CAPITAL_LETTER_IAUDA 1SMALL+2
1CAPITAL_LETTER_KAPA 1SMALL+2 1CAPITAL_LETTER_LAULA 1SMALL+2 1CAPITAL_LETTER_MI 1SMALL+2
1CAPITAL_LETTER_NI 1SMALL+2 1CAPITAL_LETTER_KSI 1SMALL+2 1CAPITAL_LETTER_O 1SMALL+2
1CAPITAL_LETTER_PI 1SMALL+2 1CAPITAL_LETTER_RO 1SMALL+2 1CAPITAL_LETTER_SIMA 1SMALL+2
1CAPITAL_LETTER_TAU 1SMALL+2 1CAPITAL_LETTER_UA 1SMALL+2 1CAPITAL_LETTER_FI 1SMALL+2
1CAPITAL_LETTER_KHI 1SMALL+2 1CAPITAL_LETTER_PSI 1SMALL+2 1CAPITAL_LETTER_OOU 1SMALL+2
1CAPITAL_LETTER_DIALECT-P_ALEF 1SMALL+3 1CAPITAL_LETTER_OLD_COPTIC_AIN 1SMALL+4
1CAPITAL_LETTER_CRYPTOGRAMMIC_EIE 1SMALL+3 1CAPITAL_LETTER_DIALECT-P_KAPA 1SMALL+3
1CAPITAL_LETTER_DIALECT-P_NI 1SMALL+3 1CAPITAL_LETTER_CRYPTOGRAMMIC+1 1SMALL+3
1CAPITAL_LETTER_OLD_COPTIC_OOU 1SMALL+4 1CAPITAL_LETTER_SAMPI 1SMALL+2 1CAPITAL_LETTER_CROSSED_SHEI
1SMALL+3 1CAPITAL_LETTER_OLD_COPTIC+1 1SMALL+4 1CAPITAL_LETTER_OLD_COPTIC_ESH 1SMALL+4
1CAPITAL_LETTER_AKHMIMIC_KHEI 1SMALL+3 1CAPITAL_LETTER_DIALECT-P_HORI 1SMALL+3
1CAPITAL_LETTER_OLD_COPTIC+1 1SMALL+4 1CAPITAL_LETTER_OLD_COPTIC_HA 1SMALL+4
1CAPITAL_LETTER_L-SHAPED+1 1SMALL+3 1CAPITAL_LETTER_OLD_COPTIC_HEI 1SMALL+4
1CAPITAL_LETTER_OLD_COPTIC_HAT 1SMALL+4 1CAPITAL_LETTER_OLD_COPTIC_GANGIA 1SMALL+4
1CAPITAL_LETTER_OLD_COPTIC_DJA 1SMALL+4 1CAPITAL_LETTER_OLD_COPTIC_SHIMA 1SMALL+4
1CAPITAL_LETTER_OLD_NUBIAN+1 1SMALL+4 1CAPITAL_LETTER_OLD_NUBIAN_NGI 1SMALL+4
1CAPITAL_LETTER_OLD_NUBIAN_NYI 1SMALL+4 1CAPITAL_LETTER_OLD_NUBIAN_WAU 1SMALL+4 1SYMBOL_KAI 2MI_RO
2PI+1 2STAUROS 2TAU_RO 2KHI+1 2SHIMA_SIMA 1CAPITAL_LETTER_CRYPTOGRAMMIC_SHEI 1SMALL+3
1CAPITAL_LETTER_CRYPTOGRAMMIC_GANGIA 1SMALL+3 1COMBINING_NI_ABOVE 2SPIRITUS_ASPER 3LENIS
1CAPITAL_LETTER_BOHAIRIC_KHEI 1SMALL+3 @2CF9 1OLD_NUBIAN_FULL_STOP 3DIRECT_QUESTION_MARK
3INDIRECT+2 3VERSE_DIVIDER 1FRACTION_ONE_HALF 1FULL_STOP 1MORPHOLOGICAL_DIVIDER
0GEORGIAN_SMALL_LETTER_AN 3BAN 3GAN 3DON 3EN 3VIN 3ZEN 3TAN 3IN 3KAN 3LAS 3MAN 3NAR 3ON 3PAR 3ZHAR
3RAE 3SAN 3TAR 3UN 3PHAR 3KHAR 3GHAN 3QAR 3SHIN 3CHIN 3CAN 3JIL 3CIL 3CHAR 3XAN 3JHAN 3HAE 3HE 3HIE
3WE 3HAR 3HOE @2D27 3YN @2D2D 3AEN @2D30 0TIFINAGH_LETTER_YA 2YAB 2YABH 2YAG 2YAGHH
2BERBER_ACADEMY_YAJ 2+1 2YAD 2YADH 2YADD 2YADDH 2YEY 2YAF 2YAK 2TUAREG+1 2YAKHH 2YAH
2BERBER_ACADEMY+1 2TUAREG+1 2YAHH 2YAA 2YAKH 2TUAREG+1 2YAQ 2TUAREG+1 2YI 2YAZH 2AHAGGAR+1
2TUAREG+1 2YAL 2YAM 2YAN 2TUAREG_YAGN 3YANG 2YAP 2YU 2YAR 2YARR 2YAGH 2TUAREG+1 2AYER+1 2YAS 2YASS
2YASH 2YAT 2YATH 2YACH 2YATT 2YAV 2YAW 2YAY 2YAZ 2TAWELLEMET+1 2YAZZ 2YE 2YO @2D6F
1MODIFIER_LETTER_LABIALIZATION_MARK 1SEPARATOR+1 @2D7F 1CONSONANT_JOINER 0ETHIOPIC_SYLLABLE_LOA
2MOA 2ROA 2SOA 2SHOA 2BOA 2TOA 2COA 2NOA 2NYOA 2GLOTTAL_OA 2ZOA 2DOA 2DDOA 2JOA 2THOA 2CHOA 2PHOA
2POA 2GGWA 2GGWI 2GGWEE 2GGWE @2DA0 2SSA 2SSU 2SSI 2SSAA 2SSEE 2SSE 2SSO @2DA8 2CCA 2CCU 2CCI 2CCAA
2CCEE 2CCE 2CCO @2DB0 2ZZA 2ZZU 2ZZI 2ZZAA 2ZZEE 2ZZE 2ZZO @2DB8 2CCHA 2CCHU 2CCHI 2CCHAA 2CCHEE
2CCHE 2CCHO @2DC0 2QYA 2QYU 2QYI 2QYAA 2QYEE 2QYE 2QYO @2DC8 2KYA 2KYU 2KYI 2KYAA 2KYEE 2KYE 2KYO
@2DD0 2XYA 2XYU 2XYI 2XYAA 2XYEE 2XYE 2XYO @2DD8 2GYA 2GYU 2GYI 2GYAA 2GYEE 2GYE 2GYO @2DE0
0COMBINING_CYRILLIC_LETTER_BE 3VE 3GHE 3DE 3ZHE 3ZE 3KA 3EL 3EM 3EN 3O 3PE 3ER 3ES 3TE 3HA 3TSE
3CHE 3SHA 3SHCHA 3FITA 3ES-TE 3A 3IE 3DJERV 3MONOGRAPH_UK 3YAT 3YU 3IOTIFIED_A 3LITTLE_YUS 3BIG+1
3IOTIFIED+2 0RIGHT_ANGLE_SUBSTITUTION_MARKER 2DOTTED+2 0LEFT_SUBSTITUTION_BRACKET 0RIGHT+2
0LEFT_DOTTED+2 0RIGHT+3 0RAISED_INTERPOLATION_MARKER 1DOTTED+2 0DOTTED_TRANSPOSITION+1
0LEFT_TRANSPOSITION_BRACKET 0RIGHT+2 0RAISED_SQUARE 0LEFT_RAISED_OMISSION_BRACKET 0RIGHT+3
0EDITORIAL_CORONIS 0PARAGRAPHOS 0FORKED+1 0REVERSED+2 0HYPODIASTOLE 0DOTTED_OBELOS
0DOWNWARDS_ANCORA 0UPWARDS+1 0DOTTED_RIGHT-POINTING_ANGLE 0DOUBLE_OBLIQUE_HYPHEN
0INVERTED_INTERROBANG 0PALM_BRANCH 0HYPHEN_WITH_DIAERESIS 0TILDE_WITH_RING_ABOVE
0LEFT_LOW_PARAPHRASE_BRACKET 0RIGHT+3 0TILDE_WITH_DOT_ABOVE 3BELOW 0LEFT_VERTICAL_BAR_WITH_QUILL
0RIGHT+4 0TOP_LEFT_HALF_BRACKET 1RIGHT+2 0BOTTOM_LEFT+2 1RIGHT+2 0LEFT_SIDEWAYS_U+1 0RIGHT+3
0LEFT_DOUBLE_PARENTHESIS 0RIGHT+2 0TWO_DOTS_OVER_ONE_DOT_PUNCTUATION 0ONE_DOT_OVER_TWO_DOTS+1
0SQUARED_FOUR_DOT+1 0FIVE_DOT_MARK 0REVERSED_QUESTION+1 0VERTICAL_TILDE 0RING_POINT
0WORD_SEPARATOR_MIDDLE_DOT 0TURNED_COMMA 0RAISED_DOT 1COMMA 0TURNED_SEMICOLON
0DAGGER_WITH_LEFT_GUARD 2RIGHT+1 0TURNED_DAGGER 0TOP_HALF_SECTION_SIGN 0TWO-EM_DASH 0THREE-EM+1
0STENOGRAPHIC_FULL_STOP 0VERTICAL_SIX_DOTS 0WIGGLY_VERTICAL_LINE 0CAPITULUM 0DOUBLE_HYPHEN
0REVERSED_COMMA 0DOUBLE_LOW-REVERSED-9_QUOTATION_MARK 0DASH_WITH_LEFT_UPTURN
0DOUBLE_SUSPENSION_MARK 0INVERTED_LOW_KAVYKA 3WITH_KAVYKA_ABOVE 0LOW_KAVYKA 2WITH_DOT
0DOUBLE_STACKED_COMMA 0DOTTED_SOLIDUS 0TRIPLE_DAGGER 0MEDIEVAL_COMMA 0PARAGRAPHUS_MARK
0PUNCTUS_ELEVATUS+1 0CORNISH_VERSE_DIVIDER 0CROSS_PATTY_WITH_RIGHT_CROSSBAR 3LEFT+1
0TIRONIAN_SIGN_CAPITAL_ET 0MEDIEVAL_EXCLAMATION_MARK 1QUESTION+1 0LEFT_SQUARE_BRACKET_WITH_STROKE
0RIGHT+4 0LEFT_SQUARE_BRACKET_WITH_DOUBLE+1 0RIGHT+5 0TOP_HALF_LEFT_PARENTHESIS 2RIGHT+1
0BOTTOM_HALF_LEFT+1 2RIGHT+1 0OBLIQUE_HYPHEN @2E80 0CJK_RADICAL_REPEAT 2CLIFF 2SECOND_ONE 3TWO
3THREE 2PERSON 2BOX 2TABLE 2KNIFE_ONE 3TWO 2DIVINATION 2SEAL 2SMALL_ONE 3TWO 2LAME_ONE 3TWO 3THREE
3FOUR 2SNAKE 2THREAD 2SNOUT_ONE 3TWO 2HEART_ONE 3TWO 2HAND 2RAP @2E9B 2CHOKE 2SUN 2MOON 2DEATH
2MOTHER 2CIVILIAN 2WATER_ONE 3TWO 2FIRE 2PAW_ONE 3TWO 2SIMPLIFIED_HALF_TREE_TRUNK 2COW 2DOG 2JADE
2BOLT_OF_CLOTH 2EYE 2SPIRIT_ONE 3TWO 2BAMBOO 2SILK 2C-SIMPLIFIED+1 2NET_ONE 3TWO 3THREE 3FOUR 2MESH
2SHEEP 2RAM 2EWE 2OLD 2BRUSH_ONE 3TWO 2MEAT 2MORTAR 2GRASS_ONE 3TWO 3THREE 2TIGER 2CLOTHES
2WEST_ONE 3TWO 2C-SIMPLIFIED_SEE 2SIMPLIFIED_HORN 2+1 2C-SIMPLIFIED_SPEECH 3SHELL 2FOOT
2C-SIMPLIFIED_CART 2SIMPLIFIED_WALK 2WALK_ONE 3TWO 2CITY 2C-SIMPLIFIED_GOLD 2LONG_ONE 3TWO
2C-SIMPLIFIED_LONG 3GATE 2MOUND_ONE 3TWO 2RAIN 2BLUE 2C-SIMPLIFIED_TANNED_LEATHER 3LEAF 3WIND 3FLY
2EAT_ONE 3TWO 3THREE 2C-SIMPLIFIED_EAT 2HEAD 2C-SIMPLIFIED_HORSE 2BONE 2GHOST 2C-SIMPLIFIED_FISH
3BIRD 3SALT 2SIMPLIFIED_WHEAT 3YELLOW 2C-SIMPLIFIED_FROG 2J-SIMPLIFIED_EVEN 2C-SIMPLIFIED+1
2J-SIMPLIFIED_TOOTH 2C-SIMPLIFIED+1 2J-SIMPLIFIED_DRAGON 2C-SIMPLIFIED+1 2TURTLE 2J-SIMPLIFIED+1
2C-SIMPLIFIED+1 @2F00 0KANGXI_RADICAL_ONE 2LINE 2DOT 2SLASH 2SECOND 2HOOK 2TWO 2LID 2MAN 2LEGS
2ENTER 2EIGHT 2DOWN_BOX 2COVER 2ICE 2TABLE 2OPEN_BOX 2KNIFE 2POWER 2WRAP 2SPOON 2RIGHT_OPEN_BOX
2HIDING_ENCLOSURE 2TEN 2DIVINATION 2SEAL 2CLIFF 2PRIVATE 2AGAIN 2MOUTH 2ENCLOSURE 2EARTH 2SCHOLAR
2GO 3SLOWLY 2EVENING 2BIG 2WOMAN 2CHILD 2ROOF 2INCH 2SMALL 2LAME 2CORPSE 2SPROUT 2MOUNTAIN 2RIVER
2WORK 2ONESELF 2TURBAN 2DRY 2SHORT_THREAD 2DOTTED_CLIFF 2LONG_STRIDE 2TWO_HANDS 2SHOOT 2BOW 2SNOUT
2BRISTLE 2STEP 2HEART 2HALBERD 2DOOR 2HAND 2BRANCH 2RAP 2SCRIPT 2DIPPER 2AXE 2SQUARE 2NOT 2SUN 2SAY
2MOON 2TREE 2LACK 2STOP 2DEATH 2WEAPON 2DO_NOT 2COMPARE 2FUR 2CLAN 2STEAM 2WATER 2FIRE 2CLAW
2FATHER 2DOUBLE_X 2HALF_TREE_TRUNK 2SLICE 2FANG 2COW 2DOG 2PROFOUND 2JADE 2MELON 2TILE 2SWEET 2LIFE
2USE 2FIELD 2BOLT_OF_CLOTH 2SICKNESS 2DOTTED_TENT 2WHITE 2SKIN 2DISH 2EYE 2SPEAR 2ARROW 2STONE
2SPIRIT 2TRACK 2GRAIN 2CAVE 2STAND 2BAMBOO 2RICE 2SILK 2JAR 2NET 2SHEEP 2FEATHER 2OLD 2AND 2PLOW
2EAR 2BRUSH 2MEAT 2MINISTER 2SELF 2ARRIVE 2MORTAR 2TONGUE 2OPPOSE 2BOAT 2STOPPING 2COLOR 2GRASS
2TIGER 2INSECT 2BLOOD 2WALK_ENCLOSURE 2CLOTHES 2WEST 2SEE 2HORN 2SPEECH 2VALLEY 2BEAN 2PIG 2BADGER
2SHELL 2RED 2RUN 2FOOT 2BODY 2CART 2BITTER 2MORNING 2WALK 2CITY 2WINE 2DISTINGUISH 2VILLAGE 2GOLD
2LONG 2GATE 2MOUND 2SLAVE 2SHORT_TAILED_BIRD 2RAIN 2BLUE 2WRONG 2FACE 2LEATHER 2TANNED+1 2LEEK
2SOUND 2LEAF 2WIND 2FLY 2EAT 2HEAD 2FRAGRANT 2HORSE 2BONE 2TALL 2HAIR 2FIGHT 2SACRIFICIAL_WINE
2CAULDRON 2GHOST 2FISH 2BIRD 2SALT 2DEER 2WHEAT 2HEMP 2YELLOW 2MILLET 2BLACK 2EMBROIDERY 2FROG
2TRIPOD 2DRUM 2RAT 2NOSE 2EVEN 2TOOTH 2DRAGON 2TURTLE 2FLUTE @2FF0
0IDEOGRAPHIC_DESCRIPTION_CHARACTER_LEFT_TO_RIGHT 3ABOVE_TO_BELOW 3LEFT_TO_MIDDLE_AND_RIGHT
3ABOVE_TO_MIDDLE_AND_BELOW 3FULL_SURROUND 3SURROUND_FROM_ABOVE 5BELOW 5LEFT 5UPPER+1 6RIGHT
5LOWER_LEFT 3OVERLAID @3000 1SPACE 1COMMA 1FULL_STOP 0DITTO_MARK
0JAPANESE_INDUSTRIAL_STANDARD_SYMBOL 0IDEOGRAPHIC_ITERATION_MARK 1CLOSING+1 1NUMBER_ZERO
0LEFT_ANGLE_BRACKET 0RIGHT+2 0LEFT_DOUBLE+2 0RIGHT+3 0LEFT_CORNER+1 0RIGHT+2 0LEFT_WHITE+2 0RIGHT+3
0LEFT_BLACK_LENTICULAR+1 0RIGHT+3 0POSTAL_MARK 0GETA+1 0LEFT_TORTOISE_SHELL_BRACKET 0RIGHT+3
0LEFT_WHITE_LENTICULAR+1 0RIGHT+3 0LEFT_WHITE_TORTOISE_SHELL+1 0RIGHT+4 0LEFT_WHITE_SQUARE+1
0RIGHT+3 0WAVE_DASH 0REVERSED_DOUBLE_PRIME_QUOTATION_MARK 0+4 0LOW+4 0POSTAL_MARK_FACE
0HANGZHOU_NUMERAL_ONE 2TWO 2THREE 2FOUR 2FIVE 2SIX 2SEVEN 2EIGHT 2NINE 0IDEOGRAPHIC_LEVEL_TONE_MARK
1RISING+2 1DEPARTING+2 1ENTERING+2 0HANGUL_SINGLE_DOT+2 1DOUBLE+3 0WAVY_DASH
0VERTICAL_KANA_REPEAT_MARK 3WITH_VOICED_SOUND+1 3MARK_UPPER_HALF 3WITH_VOICED_SOUND+3 3MARK_LOWER+1
0CIRCLED_POSTAL_MARK 0IDEOGRAPHIC_TELEGRAPH_LINE_FEED_SEPARATOR_SYMBOL 0HANGZHOU_NUMERAL_TEN
2TWENTY 2THIRTY 0VERTICAL_IDEOGRAPHIC_ITERATION_MARK 0MASU+1 0PART_ALTERNATION+1
0IDEOGRAPHIC_VARIATION_INDICATOR 1HALF_FILL_SPACE @3041 0HIRAGANA_LETTER_SMALL_A 2+1 2SMALL_I 2+1
2SMALL_U 2+1 2SMALL_E 2+1 2SMALL_O 2+1 2KA 2GA 2KI 2GI 2KU 2GU 2KE 2GE 2KO 2GO 2SA 2ZA 2SI 2ZI 2SU
2ZU 2SE 2ZE 2SO 2ZO 2TA 2DA 2TI 2DI 2SMALL_TU 2+1 2DU 2TE 2DE 2TO 2DO 2NA 2NI 2NU 2NE 2NO 2HA 2BA
2PA 2HI 2BI 2PI 2HU 2BU 2PU 2HE 2BE 2PE 2HO 2BO 2PO 2MA 2MI 2MU 2ME 2MO 2SMALL_YA 2+1 2SMALL_YU 2+1
2SMALL_YO 2+1 2RA 2RI 2RU 2RE 2RO 2SMALL_WA 2+1 2WI 2WE 2WO 2N 2VU 2SMALL_KA 3KE @3099
0COMBINING_KATAKANA-HIRAGANA_VOICED_SOUND_MARK 2SEMI-VOICED+2 0KATAKANA-HIRAGANA_VOICED+2
1SEMI-VOICED+2 0HIRAGANA_ITERATION+1 1VOICED+2 1DIGRAPH_YORI 0KATAKANA-HIRAGANA_DOUBLE_HYPHEN
0KATAKANA_LETTER_SMALL_A 2+1 2SMALL_I 2+1 2SMALL_U 2+1 2SMALL_E 2+1 2SMALL_O 2+1 2KA 2GA 2KI 2GI
2KU 2GU 2KE 2GE 2KO 2GO 2SA 2ZA 2SI 2ZI 2SU 2ZU 2SE 2ZE 2SO 2ZO 2TA 2DA 2TI 2DI 2SMALL_TU 2+1 2DU
2TE 2DE 2TO 2DO 2NA 2NI 2NU 2NE 2NO 2HA 2BA 2PA 2HI 2BI 2PI 2HU 2BU 2PU 2HE 2BE 2PE 2HO 2BO 2PO 2MA
2MI 2MU 2ME 2MO 2SMALL_YA 2+1 2SMALL_YU 2+1 2SMALL_YO 2+1 2RA 2RI 2RU 2RE 2RO 2SMALL_WA 2+1 2WI 2WE
2WO 2N 2VU 2SMALL_KA 3KE 2VA 2VI 2VE 2VO 1MIDDLE_DOT 0KATAKANA-HIRAGANA_PROLONGED_SOUND_MARK
0KATAKANA_ITERATION+1 1VOICED+2 1DIGRAPH_KOTO @3105 0BOPOMOFO_LETTER_B 2P 2M 2F 2D 2T 2N 2L 2G 2K
2H 2J 2Q 2X 2ZH 2CH 2SH 2R 2Z 2C 2S 2A 2O 2E 2EH 2AI 2EI 2AU 2OU 2AN 2EN 2ANG 2ENG 2ER 2I 2U 2IU 2V
2NG 2GN 2IH 2O_WITH_DOT_ABOVE 2NN @3131 0HANGUL_LETTER_KIYEOK 2SSANGKIYEOK 2KIYEOK-SIOS 2NIEUN
2NIEUN-CIEUC 2NIEUN-HIEUH 2TIKEUT 2SSANGTIKEUT 2RIEUL 2RIEUL-KIYEOK 2RIEUL-MIEUM 2RIEUL-PIEUP
2RIEUL-SIOS 2RIEUL-THIEUTH 2RIEUL-PHIEUPH 2RIEUL-HIEUH 2MIEUM 2PIEUP 2SSANGPIEUP 2PIEUP-SIOS 2SIOS
2SSANGSIOS 2IEUNG 2CIEUC 2SSANGCIEUC 2CHIEUCH 2KHIEUKH 2THIEUTH 2PHIEUPH 2HIEUH 2A 2AE 2YA 2YAE 2EO
2E 2YEO 2YE 2O 2WA 2WAE 2OE 2YO 2U 2WEO 2WE 2WI 2YU 2EU 2YI 2I 1FILLER 1LETTER_SSANGNIEUN
2NIEUN-TIKEUT 2NIEUN-SIOS 2NIEUN-PANSIOS 2RIEUL-KIYEOK-SIOS 2RIEUL-TIKEUT 2RIEUL-PIEUP-SIOS
2RIEUL-PANSIOS 2RIEUL-YEORINHIEUH 2MIEUM-PIEUP 2MIEUM-SIOS 2MIEUM-PANSIOS 2KAPYEOUNMIEUM
2PIEUP-KIYEOK 2PIEUP-TIKEUT 2PIEUP-SIOS-KIYEOK 2PIEUP-SIOS-TIKEUT 2PIEUP-CIEUC 2PIEUP-THIEUTH
2KAPYEOUNPIEUP 2KAPYEOUNSSANGPIEUP 2SIOS-KIYEOK 2SIOS-NIEUN 2SIOS-TIKEUT 2SIOS-PIEUP 2SIOS-CIEUC
2PANSIOS 2SSANGIEUNG 2YESIEUNG 2YESIEUNG-SIOS 2YESIEUNG-PANSIOS 2KAPYEOUNPHIEUPH 2SSANGHIEUH
2YEORINHIEUH 2YO-YA 2YO-YAE 2YO-I 2YU-YEO 2YU-YE 2YU-I 2ARAEA 2ARAEAE @3190
0IDEOGRAPHIC_ANNOTATION_LINKING_MARK 2REVERSE+1 2ONE+1 2TWO+1 2THREE+1 2FOUR+1 2TOP+1 2MIDDLE+1
2BOTTOM+1 2FIRST+1 2SECOND+1 2THIRD+1 2FOURTH+1 2HEAVEN+1 2EARTH+1 2MAN+1 0BOPOMOFO_LETTER_BU 2ZI
2JI 2GU 2EE 2ENN 2OO 2ONN 2IR 2ANN 2INN 2UNN 2IM 2NGG 2AINN 2AUNN 2AM 2OM 2ONG 2INNN
1FINAL_LETTER_P 3T 3K 3H 1LETTER_GH 2LH 2ZY 1FINAL_LETTER_G 1LETTER_GW 2KW 2OE 2AH 0CJK_STROKE_T
2WG 2XG 2BXG 2SW 2HZZ 2HZG 2HP 2HZWG 2SZWG 2HZT 2HZZP 2HPWG 2HZW 2HZZZ 2N 2H 2S 2P 2SP 2D 2HZ 2HG
2SZ 2SWZ 2ST 2SG 2PD 2PZ 2TN 2SZZ 2SWG 2HXWG 2HZZZG 2PG 2Q @31F0 0KATAKANA_LETTER_SMALL_KU 3SI 3SU
3TO 3NU 3HA 3HI 3HU 3HE 3HO 3MU 3RA 3RI 3RU 3RE 3RO 0PARENTHESIZED_HANGUL_KIYEOK 2NIEUN 2TIKEUT
2RIEUL 2MIEUM 2PIEUP 2SIOS 2IEUNG 2CIEUC 2CHIEUCH 2KHIEUKH 2THIEUTH 2PHIEUPH 2HIEUH 2KIYEOK_A
2NIEUN+1 2TIKEUT+1 2RIEUL+1 2MIEUM+1 2PIEUP+1 2SIOS+1 2IEUNG+1 2CIEUC+1 2CHIEUCH+1 2KHIEUKH+1
2THIEUTH+1 2PHIEUPH+1 2HIEUH+1 2CIEUC_U 1KOREAN_CHARACTER_OJEON 3O_HU @3220 1IDEOGRAPH_ONE 2TWO
2THREE 2FOUR 2FIVE 2SIX 2SEVEN 2EIGHT 2NINE 2TEN 2MOON 2FIRE 2WATER 2WOOD 2METAL 2EARTH 2SUN 2STOCK
2HAVE 2SOCIETY 2NAME 2SPECIAL 2FINANCIAL 2CONGRATULATION 2LABOR 2REPRESENT 2CALL 2STUDY 2SUPERVISE
2ENTERPRISE 2RESOURCE 2ALLIANCE 2FESTIVAL 2REST 2SELF 2REACH 0CIRCLED_IDEOGRAPH_QUESTION
2KINDERGARTEN 2SCHOOL 2KOTO 1NUMBER_TEN_ON_BLACK_SQUARE 2TWENTY+3 2THIRTY+3 2FORTY+3 2FIFTY+3
2SIXTY+3 2SEVENTY+3 2EIGHTY+3 0PARTNERSHIP_SIGN 0CIRCLED_NUMBER_TWENTY_ONE 3TWO 3THREE 3FOUR 3FIVE
3SIX 3SEVEN 3EIGHT 3NINE 2THIRTY 3ONE 3TWO 3THREE 3FOUR 3FIVE 1HANGUL_KIYEOK 2NIEUN 2TIKEUT 2RIEUL
2MIEUM 2PIEUP 2SIOS 2IEUNG 2CIEUC 2CHIEUCH 2KHIEUKH 2THIEUTH 2PHIEUPH 2HIEUH 2KIYEOK_A 2NIEUN+1
2TIKEUT+1 2RIEUL+1 2MIEUM+1 2PIEUP+1 2SIOS+1 2IEUNG+1 2CIEUC+1 2CHIEUCH+1 2KHIEUKH+1 2THIEUTH+1
2PHIEUPH+1 2HIEUH+1 1KOREAN_CHARACTER_CHAMKO 3JUEUI 1HANGUL_IEUNG_U 0KOREAN_STANDARD_SYMBOL
0CIRCLED_IDEOGRAPH_ONE 2TWO 2THREE 2FOUR 2FIVE 2SIX 2SEVEN 2EIGHT 2NINE 2TEN 2MOON 2FIRE 2WATER
2WOOD 2METAL 2EARTH 2SUN 2STOCK 2HAVE 2SOCIETY 2NAME 2SPECIAL 2FINANCIAL 2CONGRATULATION 2LABOR
2SECRET 2MALE 2FEMALE 2SUITABLE 2EXCELLENT 2PRINT 2ATTENTION 2ITEM 2REST 2COPY 2CORRECT 2HIGH
2CENTRE 2LOW 2LEFT 2RIGHT 2MEDICINE 2RELIGION 2STUDY 2SUPERVISE 2ENTERPRISE 2RESOURCE 2ALLIANCE
2NIGHT 1NUMBER_THIRTY_SIX 3SEVEN 3EIGHT 3NINE 2FORTY 3ONE 3TWO 3THREE 3FOUR 3FIVE 3SIX 3SEVEN
3EIGHT 3NINE 2FIFTY 0IDEOGRAPHIC_TELEGRAPH_SYMBOL_FOR_JANUARY 4FEBRUARY 4MARCH 4APRIL 4MAY 4JUNE
4JULY 4AUGUST 4SEPTEMBER 4OCTOBER 4NOVEMBER 4DECEMBER 0SQUARE_HG 1ERG 1EV 0LIMITED_LIABILITY_SIGN
0CIRCLED_KATAKANA_A 2I 2U 2E 2O 2KA 2KI 2KU 2KE 2KO 2SA 2SI 2SU 2SE 2SO 2TA 2TI 2TU 2TE 2TO 2NA 2NI
2NU 2NE 2NO 2HA 2HI 2HU 2HE 2HO 2MA 2MI 2MU 2ME 2MO 2YA 2YU 2YO 2RA 2RI 2RU 2RE 2RO 2WA 2WI 2WE 2WO
0SQUARE_ERA_NAME_REIWA 1APAATO 1ARUHUA 1ANPEA 1AARU 1ININGU 1INTI 1UON 1ESUKUUDO 1EEKAA 1ONSU 1OOMU
1KAIRI 1KARATTO 1KARORII 1GARON 1GANMA 1GIGA 1GINII 1KYURII 1GIRUDAA 1KIRO 1KIROGURAMU 1KIROMEETORU
1KIROWATTO 1GURAMU 1GURAMUTON 1KURUZEIRO 1KUROONE 1KEESU 1KORUNA 1KOOPO 1SAIKURU 1SANTIIMU 1SIRINGU
1SENTI 1SENTO 1DAASU 1DESI 1DORU 1TON 1NANO 1NOTTO 1HAITU 1PAASENTO 1PAATU 1BAARERU 1PIASUTORU
1PIKURU 1PIKO 1BIRU 1HUARADDO 1HUIITO 1BUSSYERU 1HURAN 1HEKUTAARU 1PESO 1PENIHI 1HERUTU 1PENSU
1PEEZI 1BEETA 1POINTO 1BORUTO 1HON 1PONDO 1HOORU 1HOON 1MAIKURO 1MAIRU 1MAHHA 1MARUKU 1MANSYON
1MIKURON 1MIRI 1MIRIBAARU 1MEGA 1MEGATON 1MEETORU 1YAADO 1YAARU 1YUAN 1RITTORU 1RIRA 1RUPII
1RUUBURU 1REMU 1RENTOGEN 1WATTO 0IDEOGRAPHIC_TELEGRAPH_SYMBOL_FOR_HOUR_ZERO 5ONE 5TWO 5THREE 5FOUR
5FIVE 5SIX 5SEVEN 5EIGHT 5NINE 5TEN 5ELEVEN 5TWELVE 5THIRTEEN 5FOURTEEN 5FIFTEEN 5SIXTEEN
5SEVENTEEN 5EIGHTEEN 5NINETEEN 5TWENTY 5TWENTY-ONE 5TWENTY-TWO 5TWENTY-THREE 5TWENTY-FOUR
0SQUARE_HPA 1DA 1AU 1BAR 1OV 1PC 1DM 2SQUARED 2CUBED 1IU 1ERA_NAME_HEISEI 3SYOUWA 3TAISYOU 3MEIZI
1CORPORATION 1PA_AMPS 1NA 1MU_A 1MA 1KA 1KB 1MB 1GB 1CAL 1KCAL 1PF 1NF 1MU_F 2G 1MG 1KG 1HZ 1KHZ
1MHZ 1GHZ 1THZ 1MU_L 1ML 1DL 1KL 1FM 1NM 1MU_M 1MM 1CM 1KM 1MM_SQUARED 1CM+1 1M+1 1KM+1 1MM_CUBED
1CM+1 1M+1 1KM+1 1M_OVER_S 4SQUARED 1PA 1KPA 1MPA 1GPA 1RAD 2OVER_S 4SQUARED 1PS 1NS 1MU_S 1MS 1PV
1NV 1MU_V 1MV 1KV 1MV_MEGA 1PW 1NW 1MU_W 1MW 1KW 1MW_MEGA 1K_OHM 1M+1 1AM 1BQ 1CC 1CD 1C_OVER_KG
1CO 1DB 1GY 1HA 1HP 1IN 1KK 1KM_CAPITAL 1KT 1LM 1LN 1LOG 1LX 1MB_SMALL 1MIL 1MOL 1PH 1PM 1PPM 1PR
1SR 1SV 1WB 1V_OVER_M 1A+2 0IDEOGRAPHIC_TELEGRAPH_SYMBOL_FOR_DAY_ONE 5TWO 5THREE 5FOUR 5FIVE 5SIX
5SEVEN 5EIGHT 5NINE 5TEN 5ELEVEN 5TWELVE 5THIRTEEN 5FOURTEEN 5FIFTEEN 5SIXTEEN 5SEVENTEEN 5EIGHTEEN
5NINETEEN 5TWENTY 5TWENTY-ONE 5TWENTY-TWO 5TWENTY-THREE 5TWENTY-FOUR 5TWENTY-FIVE 5TWENTY-SIX
5TWENTY-SEVEN 5TWENTY-EIGHT 5TWENTY-NINE 5THIRTY 5THIRTY-ONE 0SQUARE_GAL @4DC0
0HEXAGRAM_FOR_THE_CREATIVE_HEAVEN 3RECEPTIVE_EARTH 2DIFFICULTY_AT_THE_BEGINNING 2YOUTHFUL_FOLLY
2WAITING 2CONFLICT 2THE_ARMY 2HOLDING_TOGETHER 2SMALL_TAMING 2TREADING 2PEACE 2STANDSTILL
2FELLOWSHIP 2GREAT_POSSESSION 2MODESTY 2ENTHUSIASM 2FOLLOWING 2WORK_ON_THE_DECAYED 2APPROACH
2CONTEMPLATION 2BITING_THROUGH 2GRACE 2SPLITTING_APART 2RETURN 2INNOCENCE 2GREAT_TAMING
2MOUTH_CORNERS 2GREAT_PREPONDERANCE 2THE_ABYSMAL_WATER 3CLINGING_FIRE 2INFLUENCE 2DURATION 2RETREAT
2GREAT_POWER 2PROGRESS 2DARKENING_OF_THE_LIGHT 2THE_FAMILY 2OPPOSITION 2OBSTRUCTION 2DELIVERANCE
2DECREASE 2INCREASE 2BREAKTHROUGH 2COMING_TO_MEET 2GATHERING_TOGETHER 2PUSHING_UPWARD 2OPPRESSION
2THE_WELL 2REVOLUTION 2THE_CAULDRON 3AROUSING_THUNDER 3KEEPING_STILL_MOUNTAIN 2DEVELOPMENT
2THE_MARRYING_MAIDEN 2ABUNDANCE 2THE_WANDERER 3GENTLE_WIND 3JOYOUS_LAKE 2DISPERSION 2LIMITATION
2INNER_TRUTH 2SMALL_PREPONDERANCE 2AFTER_COMPLETION 2BEFORE+1 @A000 0YI_SYLLABLE_IT 2IX 2I 2IP 2IET
2IEX 2IE 2IEP 2AT 2AX 2A 2AP 2UOX 2UO 2UOP 2OT 2OX 2O 2OP 2EX 2E 2WU 2BIT 2BIX 2BI 2BIP 2BIET 2BIEX
2BIE 2BIEP 2BAT 2BAX 2BA 2BAP 2BUOX 2BUO 2BUOP 2BOT 2BOX 2BO 2BOP 2BEX 2BE 2BEP 2BUT 2BUX 2BU 2BUP
2BURX 2BUR 2BYT 2BYX 2BY 2BYP 2BYRX 2BYR 2PIT 2PIX 2PI 2PIP 2PIEX 2PIE 2PIEP 2PAT 2PAX 2PA 2PAP
2PUOX 2PUO 2PUOP 2POT 2POX 2PO 2POP 2PUT 2PUX 2PU 2PUP 2PURX 2PUR 2PYT 2PYX 2PY 2PYP 2PYRX 2PYR
2BBIT 2BBIX 2BBI 2BBIP 2BBIET 2BBIEX 2BBIE 2BBIEP 2BBAT 2BBAX 2BBA 2BBAP 2BBUOX 2BBUO 2BBUOP 2BBOT
2BBOX 2BBO 2BBOP 2BBEX 2BBE 2BBEP 2BBUT 2BBUX 2BBU 2BBUP 2BBURX 2BBUR 2BBYT 2BBYX 2BBY 2BBYP 2NBIT
2NBIX 2NBI 2NBIP 2NBIEX 2NBIE 2NBIEP 2NBAT 2NBAX 2NBA 2NBAP 2NBOT 2NBOX 2NBO 2NBOP 2NBUT 2NBUX 2NBU
2NBUP 2NBURX 2NBUR 2NBYT 2NBYX 2NBY 2NBYP 2NBYRX 2NBYR 2HMIT 2HMIX 2HMI 2HMIP 2HMIEX 2HMIE 2HMIEP
2HMAT 2HMAX 2HMA 2HMAP 2HMUOX 2HMUO 2HMUOP 2HMOT 2HMOX 2HMO 2HMOP 2HMUT 2HMUX 2HMU 2HMUP 2HMURX
2HMUR 2HMYX 2HMY 2HMYP 2HMYRX 2HMYR 2MIT 2MIX 2MI 2MIP 2MIEX 2MIE 2MIEP 2MAT 2MAX 2MA 2MAP 2MUOT
2MUOX 2MUO 2MUOP 2MOT 2MOX 2MO 2MOP 2MEX 2ME 2MUT 2MUX 2MU 2MUP 2MURX 2MUR 2MYT 2MYX 2MY 2MYP 2FIT
2FIX 2FI 2FIP 2FAT 2FAX 2FA 2FAP 2FOX 2FO 2FOP 2FUT 2FUX 2FU 2FUP 2FURX 2FUR 2FYT 2FYX 2FY 2FYP
2VIT 2VIX 2VI 2VIP 2VIET 2VIEX 2VIE 2VIEP 2VAT 2VAX 2VA 2VAP 2VOT 2VOX 2VO 2VOP 2VEX 2VEP 2VUT 2VUX
2VU 2VUP 2VURX 2VUR 2VYT 2VYX 2VY 2VYP 2VYRX 2VYR 2DIT 2DIX 2DI 2DIP 2DIEX 2DIE 2DIEP 2DAT 2DAX 2DA
2DAP 2DUOX 2DUO 2DOT 2DOX 2DO 2DOP 2DEX 2DE 2DEP 2DUT 2DUX 2DU 2DUP 2DURX 2DUR 2TIT 2TIX 2TI 2TIP
2TIEX 2TIE 2TIEP 2TAT 2TAX 2TA 2TAP 2TUOT 2TUOX 2TUO 2TUOP 2TOT 2TOX 2TO 2TOP 2TEX 2TE 2TEP 2TUT
2TUX 2TU 2TUP 2TURX 2TUR 2DDIT 2DDIX 2DDI 2DDIP 2DDIEX 2DDIE 2DDIEP 2DDAT 2DDAX 2DDA 2DDAP 2DDUOX
2DDUO 2DDUOP 2DDOT 2DDOX 2DDO 2DDOP 2DDEX 2DDE 2DDEP 2DDUT 2DDUX 2DDU 2DDUP 2DDURX 2DDUR 2NDIT
2NDIX 2NDI 2NDIP 2NDIEX 2NDIE 2NDAT 2NDAX 2NDA 2NDAP 2NDOT 2NDOX 2NDO 2NDOP 2NDEX 2NDE 2NDEP 2NDUT
2NDUX 2NDU 2NDUP 2NDURX 2NDUR 2HNIT 2HNIX 2HNI 2HNIP 2HNIET 2HNIEX 2HNIE 2HNIEP 2HNAT 2HNAX 2HNA
2HNAP 2HNUOX 2HNUO 2HNOT 2HNOX 2HNOP 2HNEX 2HNE 2HNEP 2HNUT 2NIT 2NIX 2NI 2NIP 2NIEX 2NIE 2NIEP
2NAX 2NA 2NAP 2NUOX 2NUO 2NUOP 2NOT 2NOX 2NO 2NOP 2NEX 2NE 2NEP 2NUT 2NUX 2NU 2NUP 2NURX 2NUR 2HLIT
2HLIX 2HLI 2HLIP 2HLIEX 2HLIE 2HLIEP 2HLAT 2HLAX 2HLA 2HLAP 2HLUOX 2HLUO 2HLUOP 2HLOX 2HLO 2HLOP
2HLEX 2HLE 2HLEP 2HLUT 2HLUX 2HLU 2HLUP 2HLURX 2HLUR 2HLYT 2HLYX 2HLY 2HLYP 2HLYRX 2HLYR 2LIT 2LIX
2LI 2LIP 2LIET 2LIEX 2LIE 2LIEP 2LAT 2LAX 2LA 2LAP 2LUOT 2LUOX 2LUO 2LUOP 2LOT 2LOX 2LO 2LOP 2LEX
2LE 2LEP 2LUT 2LUX 2LU 2LUP 2LURX 2LUR 2LYT 2LYX 2LY 2LYP 2LYRX 2LYR 2GIT 2GIX 2GI 2GIP 2GIET 2GIEX
2GIE 2GIEP 2GAT 2GAX 2GA 2GAP 2GUOT 2GUOX 2GUO 2GUOP 2GOT 2GOX 2GO 2GOP 2GET 2GEX 2GE 2GEP 2GUT
2GUX 2GU 2GUP 2GURX 2GUR 2KIT 2KIX 2KI 2KIP 2KIEX 2KIE 2KIEP 2KAT 2KAX 2KA 2KAP 2KUOX 2KUO 2KUOP
2KOT 2KOX 2KO 2KOP 2KET 2KEX 2KE 2KEP 2KUT 2KUX 2KU 2KUP 2KURX 2KUR 2GGIT 2GGIX 2GGI 2GGIEX 2GGIE
2GGIEP 2GGAT 2GGAX 2GGA 2GGAP 2GGUOT 2GGUOX 2GGUO 2GGUOP 2GGOT 2GGOX 2GGO 2GGOP 2GGET 2GGEX 2GGE
2GGEP 2GGUT 2GGUX 2GGU 2GGUP 2GGURX 2GGUR 2MGIEX 2MGIE 2MGAT 2MGAX 2MGA 2MGAP 2MGUOX 2MGUO 2MGUOP
2MGOT 2MGOX 2MGO 2MGOP 2MGEX 2MGE 2MGEP 2MGUT 2MGUX 2MGU 2MGUP 2MGURX 2MGUR 2HXIT 2HXIX 2HXI 2HXIP
2HXIET 2HXIEX 2HXIE 2HXIEP 2HXAT 2HXAX 2HXA 2HXAP 2HXUOT 2HXUOX 2HXUO 2HXUOP 2HXOT 2HXOX 2HXO 2HXOP
2HXEX 2HXE 2HXEP 2NGIEX 2NGIE 2NGIEP 2NGAT 2NGAX 2NGA 2NGAP 2NGUOT 2NGUOX 2NGUO 2NGOT 2NGOX 2NGO
2NGOP 2NGEX 2NGE 2NGEP 2HIT 2HIEX 2HIE 2HAT 2HAX 2HA 2HAP 2HUOT 2HUOX 2HUO 2HUOP 2HOT 2HOX 2HO 2HOP
2HEX 2HE 2HEP 2WAT 2WAX 2WA 2WAP 2WUOX 2WUO 2WUOP 2WOX 2WO 2WOP 2WEX 2WE 2WEP 2ZIT 2ZIX 2ZI 2ZIP
2ZIEX 2ZIE 2ZIEP 2ZAT 2ZAX 2ZA 2ZAP 2ZUOX 2ZUO 2ZUOP 2ZOT 2ZOX 2ZO 2ZOP 2ZEX 2ZE 2ZEP 2ZUT 2ZUX 2ZU
2ZUP 2ZURX 2ZUR 2ZYT 2ZYX 2ZY 2ZYP 2ZYRX 2ZYR 2CIT 2CIX 2CI 2CIP 2CIET 2CIEX 2CIE 2CIEP 2CAT 2CAX
2CA 2CAP 2CUOX 2CUO 2CUOP 2COT 2COX 2CO 2COP 2CEX 2CE 2CEP 2CUT 2CUX 2CU 2CUP 2CURX 2CUR 2CYT 2CYX
2CY 2CYP 2CYRX 2CYR 2ZZIT 2ZZIX 2ZZI 2ZZIP 2ZZIET 2ZZIEX 2ZZIE 2ZZIEP 2ZZAT 2ZZAX 2ZZA 2ZZAP 2ZZOX
2ZZO 2ZZOP 2ZZEX 2ZZE 2ZZEP 2ZZUX 2ZZU 2ZZUP 2ZZURX 2ZZUR 2ZZYT 2ZZYX 2ZZY 2ZZYP 2ZZYRX 2ZZYR 2NZIT
2NZIX 2NZI 2NZIP 2NZIEX 2NZIE 2NZIEP 2NZAT 2NZAX 2NZA 2NZAP 2NZUOX 2NZUO 2NZOX 2NZOP 2NZEX 2NZE
2NZUX 2NZU 2NZUP 2NZURX 2NZUR 2NZYT 2NZYX 2NZY 2NZYP 2NZYRX 2NZYR 2SIT 2SIX 2SI 2SIP 2SIEX 2SIE
2SIEP 2SAT 2SAX 2SA 2SAP 2SUOX 2SUO 2SUOP 2SOT 2SOX 2SO 2SOP 2SEX 2SE 2SEP 2SUT 2SUX 2SU 2SUP 2SURX
2SUR 2SYT 2SYX 2SY 2SYP 2SYRX 2SYR 2SSIT 2SSIX 2SSI 2SSIP 2SSIEX 2SSIE 2SSIEP 2SSAT 2SSAX 2SSA
2SSAP 2SSOT 2SSOX 2SSO 2SSOP 2SSEX 2SSE 2SSEP 2SSUT 2SSUX 2SSU 2SSUP 2SSYT 2SSYX 2SSY 2SSYP 2SSYRX
2SSYR 2ZHAT 2ZHAX 2ZHA 2ZHAP 2ZHUOX 2ZHUO 2ZHUOP 2ZHOT 2ZHOX 2ZHO 2ZHOP 2ZHET 2ZHEX 2ZHE 2ZHEP
2ZHUT 2ZHUX 2ZHU 2ZHUP 2ZHURX 2ZHUR 2ZHYT 2ZHYX 2ZHY 2ZHYP 2ZHYRX 2ZHYR 2CHAT 2CHAX 2CHA 2CHAP
2CHUOT 2CHUOX 2CHUO 2CHUOP 2CHOT 2CHOX 2CHO 2CHOP 2CHET 2CHEX 2CHE 2CHEP 2CHUX 2CHU 2CHUP 2CHURX
2CHUR 2CHYT 2CHYX 2CHY 2CHYP 2CHYRX 2CHYR 2RRAX 2RRA 2RRUOX 2RRUO 2RROT 2RROX 2RRO 2RROP 2RRET
2RREX 2RRE 2RREP 2RRUT 2RRUX 2RRU 2RRUP 2RRURX 2RRUR 2RRYT 2RRYX 2RRY 2RRYP 2RRYRX 2RRYR 2NRAT
2NRAX 2NRA 2NRAP 2NROX 2NRO 2NROP 2NRET 2NREX 2NRE 2NREP 2NRUT 2NRUX 2NRU 2NRUP 2NRURX 2NRUR 2NRYT
2NRYX 2NRY 2NRYP 2NRYRX 2NRYR 2SHAT 2SHAX 2SHA 2SHAP 2SHUOX 2SHUO 2SHUOP 2SHOT 2SHOX 2SHO 2SHOP
2SHET 2SHEX 2SHE 2SHEP 2SHUT 2SHUX 2SHU 2SHUP 2SHURX 2SHUR 2SHYT 2SHYX 2SHY 2SHYP 2SHYRX 2SHYR 2RAT
2RAX 2RA 2RAP 2RUOX 2RUO 2RUOP 2ROT 2ROX 2RO 2ROP 2REX 2RE 2REP 2RUT 2RUX 2RU 2RUP 2RURX 2RUR 2RYT
2RYX 2RY 2RYP 2RYRX 2RYR 2JIT 2JIX 2JI 2JIP 2JIET 2JIEX 2JIE 2JIEP 2JUOT 2JUOX 2JUO 2JUOP 2JOT 2JOX
2JO 2JOP 2JUT 2JUX 2JU 2JUP 2JURX 2JUR 2JYT 2JYX 2JY 2JYP 2JYRX 2JYR 2QIT 2QIX 2QI 2QIP 2QIET 2QIEX
2QIE 2QIEP 2QUOT 2QUOX 2QUO 2QUOP 2QOT 2QOX 2QO 2QOP 2QUT 2QUX 2QU 2QUP 2QURX 2QUR 2QYT 2QYX 2QY
2QYP 2QYRX 2QYR 2JJIT 2JJIX 2JJI 2JJIP 2JJIET 2JJIEX 2JJIE 2JJIEP 2JJUOX 2JJUO 2JJUOP 2JJOT 2JJOX
2JJO 2JJOP 2JJUT 2JJUX 2JJU 2JJUP 2JJURX 2JJUR 2JJYT 2JJYX 2JJY 2JJYP 2NJIT 2NJIX 2NJI 2NJIP 2NJIET
2NJIEX 2NJIE 2NJIEP 2NJUOX 2NJUO 2NJOT 2NJOX 2NJO 2NJOP 2NJUX 2NJU 2NJUP 2NJURX 2NJUR 2NJYT 2NJYX
2NJY 2NJYP 2NJYRX 2NJYR 2NYIT 2NYIX 2NYI 2NYIP 2NYIET 2NYIEX 2NYIE 2NYIEP 2NYUOX 2NYUO 2NYUOP 2NYOT
2NYOX 2NYO 2NYOP 2NYUT 2NYUX 2NYU 2NYUP 2XIT 2XIX 2XI 2XIP 2XIET 2XIEX 2XIE 2XIEP 2XUOX 2XUO 2XOT
2XOX 2XO 2XOP 2XYT 2XYX 2XY 2XYP 2XYRX 2XYR 2YIT 2YIX 2YI 2YIP 2YIET 2YIEX 2YIE 2YIEP 2YUOT 2YUOX
2YUO 2YUOP 2YOT 2YOX 2YO 2YOP 2YUT 2YUX 2YU 2YUP 2YURX 2YUR 2YYT 2YYX 2YY 2YYP 2YYRX 2YYR @A490
1RADICAL_QOT 2LI 2KIT 2NYIP 2CYP 2SSI 2GGOP 2GEP 2MI 2HXIT 2LYR 2BBUT 2MOP 2YO 2PUT 2HXUO 2TAT 2GA
2ZUP 2CYT 2DDUR 2BUR 2GGUO 2NYOP 2TU 2OP 2JJUT 2ZOT 2PYT 2HMO 2YIT 2VUR 2SHY 2VEP 2ZA 2JO 2NZUP
2JJY 2GOT 2JJIE 2WO 2DU 2SHUR 2LIE 2CY 2CUOP 2CIP 2HXOP 2SHAT 2ZUR 2SHOP 2CHE 2ZZIET 2NBIE 2KE
@A4D0 0LISU_LETTER_BA 2PA 2PHA 2DA 2TA 2THA 2GA 2KA 2KHA 2JA 2CA 2CHA 2DZA 2TSA 2TSHA 2MA 2NA 2LA
2SA 2ZHA 2ZA 2NGA 2HA 2XA 2HHA 2FA 2WA 2SHA 2YA 2GHA 2A 2AE 2E 2EU 2I 2O 2U 2UE 2UH 2OE
2TONE_MYA_TI 3NA_PO 3MYA_CYA 4BO 4NA 4JEU 1PUNCTUATION_COMMA 2FULL_STOP 0VAI_SYLLABLE_EE 2EEN 2HEE
2WEE 2WEEN 2PEE 2BHEE 2BEE 2MBEE 2KPEE 2MGBEE 2GBEE 2FEE 2VEE 2TEE 2THEE 2DHEE 2DHHEE 2LEE 2REE
2DEE 2NDEE 2SEE 2SHEE 2ZEE 2ZHEE 2CEE 2JEE 2NJEE 2YEE 2KEE 2NGGEE 2GEE 2MEE 2NEE 2NYEE 2I 2IN 2HI
2HIN 2WI 2WIN 2PI 2BHI 2BI 2MBI 2KPI 2MGBI 2GBI 2FI 2VI 2TI 2THI 2DHI 2DHHI 2LI 2RI 2DI 2NDI 2SI
2SHI 2ZI 2ZHI 2CI 2JI 2NJI 2YI 2KI 2NGGI 2GI 2MI 2NI 2NYI 2A 2AN 2NGAN 2HA 2HAN 2WA 2WAN 2PA 2BHA
2BA 2MBA 2KPA 2KPAN 2MGBA 2GBA 2FA 2VA 2TA 2THA 2DHA 2DHHA 2LA 2RA 2DA 2NDA 2SA 2SHA 2ZA 2ZHA 2CA
2JA 2NJA 2YA 2KA 2KAN 2NGGA 2GA 2MA 2NA 2NYA 2OO 2OON 2HOO 2WOO 2WOON 2POO 2BHOO 2BOO 2MBOO 2KPOO
2MGBOO 2GBOO 2FOO 2VOO 2TOO 2THOO 2DHOO 2DHHOO 2LOO 2ROO 2DOO 2NDOO 2SOO 2SHOO 2ZOO 2ZHOO 2COO 2JOO
2NJOO 2YOO 2KOO 2NGGOO 2GOO 2MOO 2NOO 2NYOO 2U 2UN 2HU 2HUN 2WU 2WUN 2PU 2BHU 2BU 2MBU 2KPU 2MGBU
2GBU 2FU 2VU 2TU 2THU 2DHU 2DHHU 2LU 2RU 2DU 2NDU 2SU 2SHU 2ZU 2ZHU 2CU 2JU 2NJU 2YU 2KU 2NGGU 2GU
2MU 2NU 2NYU 2O 2ON 2NGON 2HO 2HON 2WO 2WON 2PO 2BHO 2BO 2MBO 2KPO 2MGBO 2GBO 2GBON 2FO 2VO 2TO
2THO 2DHO 2DHHO 2LO 2RO 2DO 2NDO 2SO 2SHO 2ZO 2ZHO 2CO 2JO 2NJO 2YO 2KO 2NGGO 2GO 2MO 2NO 2NYO 2E
2EN 2NGEN 2HE 2HEN 2WE 2WEN 2PE 2BHE 2BE 2MBE 2KPE 2KPEN 2MGBE 2GBE 2GBEN 2FE 2VE 2TE 2THE 2DHE
2DHHE 2LE 2RE 2DE 2NDE 2SE 2SHE 2ZE 2ZHE 2CE 2JE 2NJE 2YE 2KE 2NGGE 2NGGEN 2GE 2GEN 2ME 2NE 2NYE
2NG 2LENGTHENER 1COMMA 1FULL_STOP 1QUESTION_MARK 1SYLLABLE_NDOLE_FA 3KA 3SOO 1SYMBOL_FEENG 2KEENG
2TING 2NII 2BANG 2FAA 2TAA 2DANG 2DOONG 2KUNG 2TONG 2DO-O 2JONG 1DIGIT_ZERO 2ONE 2TWO 2THREE 2FOUR
2FIVE 2SIX 2SEVEN 2EIGHT 2NINE 1SYLLABLE_NDOLE_MA 3DO @A640 0CYRILLIC_CAPITAL_LETTER_ZEMLYA
1SMALL+2 1CAPITAL_LETTER_DZELO 1SMALL+2 1CAPITAL_LETTER_REVERSED_DZE 1SMALL+3 1CAPITAL_LETTER_IOTA
1SMALL+2 1CAPITAL_LETTER_DJERV 1SMALL+2 1CAPITAL_LETTER_MONOGRAPH_UK 1SMALL+3
1CAPITAL_LETTER_BROAD_OMEGA 1SMALL+3 1CAPITAL_LETTER_NEUTRAL_YER 1SMALL+3
1CAPITAL_LETTER_YERU_WITH_BACK+1 1SMALL+5 1CAPITAL_LETTER_IOTIFIED_YAT 1SMALL+3
1CAPITAL_LETTER_REVERSED_YU 1SMALL+3 1CAPITAL_LETTER_IOTIFIED_A 1SMALL+3
1CAPITAL_LETTER_CLOSED_LITTLE_YUS 1SMALL+4 1CAPITAL_LETTER_BLENDED+1 1SMALL+3
1CAPITAL_LETTER_IOTIFIED_CLOSED_LITTLE+1 1SMALL+5 1CAPITAL_LETTER_YN 1SMALL+2
1CAPITAL_LETTER_REVERSED_TSE 1SMALL+3 1CAPITAL_LETTER_SOFT_DE 1SMALL+3 1CAPITAL_LETTER_SOFT_EL
1SMALL+3 1CAPITAL_LETTER_SOFT_EM 1SMALL+3 1CAPITAL_LETTER_MONOCULAR_O 1SMALL+3
1CAPITAL_LETTER_BINOCULAR+1 1SMALL+3 1CAPITAL_LETTER_DOUBLE_MONOCULAR+1 1SMALL+4
1LETTER_MULTIOCULAR+1 0COMBINING_CYRILLIC_VZMET 2TEN_MILLIONS_SIGN 2HUNDRED+2 2THOUSAND+2
0SLAVONIC_ASTERISK 0COMBINING_CYRILLIC_LETTER_UKRAINIAN_IE 3I 3YI 3U 3HARD_SIGN 3YERU 3SOFT_SIGN
3OMEGA 2KAVYKA 2PAYEROK 0CYRILLIC_KAVYKA 1PAYEROK 1CAPITAL_LETTER_DWE 1SMALL+2 1CAPITAL_LETTER_DZWE
1SMALL+2 1CAPITAL_LETTER_ZHWE 1SMALL+2 1CAPITAL_LETTER_CCHE 1SMALL+2 1CAPITAL_LETTER_DZZE 1SMALL+2
1CAPITAL_LETTER_TE_WITH_MIDDLE_HOOK 1SMALL+5 1CAPITAL_LETTER_TWE 1SMALL+2 1CAPITAL_LETTER_TSWE
1SMALL+2 1CAPITAL_LETTER_TSSE 1SMALL+2 1CAPITAL_LETTER_TCHE 1SMALL+2 1CAPITAL_LETTER_HWE 1SMALL+2
1CAPITAL_LETTER_SHWE 1SMALL+2 1CAPITAL_LETTER_DOUBLE_O 1SMALL+3 1CAPITAL_LETTER_CROSSED+1 1SMALL+3
0MODIFIER_LETTER_CYRILLIC_HARD_SIGN 3SOFT+1 0COMBINING_CYRILLIC_LETTER_EF 3IOTIFIED_E
0BAMUM_LETTER_A 2KA 2U 2KU 2EE 2REE 2TAE 2O 2NYI 2I 2LA 2PA 2RII 2RIEE 2LEEEE 2MEEEE 2TAA 2NDAA
2NJAEM 2M 2SUU 2MU 2SHII 2SI 2SHEUX 2SEUX 2KYEE 2KET 2NUAE 2NU 2NJUAE 2YOQ 2SHU 2YUQ 2YA 2NSHA
2KEUX 2PEUX 2NJEE 2NTEE 2PUE 2WUE 2PEE 2FEE 2RU 2LU 2MI 2NI 2REUX 2RAE 2KEN 2NGKWAEN 2NGGA 2NGA
2SHO 2PUAE 2FU 2FOM 2WA 2NA 2LI 2PI 2LOQ 2KO 2MBEN 2REN 2MEN 2MA 2TI 2KI 2MO 2MBAA 2TET 2KPA 2TEN
2NTUU 2SAMBA 2FAAMAE 2KOVUU 2KOGHOM 1COMBINING_MARK_KOQNDON 3TUKWENTIS 1NJAEMLI 1FULL_STOP 1COLON
1COMMA 1SEMICOLON 1QUESTION_MARK @A700 0MODIFIER_LETTER_CHINESE_TONE_YIN_PING 4YANG+1 4YIN_SHANG
4YANG+1 4YIN_QU 4YANG+1 4YIN_RU 4YANG+1 2EXTRA-HIGH_DOTTED_TONE_BAR 2HIGH+3 2MID+3 2LOW+3
2EXTRA-LOW+3 2EXTRA-HIGH_DOTTED_LEFT-STEM+2 2HIGH+4 2MID+4 2LOW+4 2EXTRA-LOW+4 2EXTRA-HIGH+3
2HIGH+3 2MID+3 2LOW+3 2EXTRA-LOW+3 2DOT_VERTICAL+1 3SLASH 3HORIZONTAL_BAR 2LOWER_RIGHT_CORNER_ANGLE
2RAISED_UP_ARROW 3DOWN+1 3EXCLAMATION_MARK 3INVERTED+2 2LOW+3 2STRESS_AND_HIGH_TONE 4LOW+1
0LATIN_CAPITAL_LETTER_EGYPTOLOGICAL_ALEF 1SMALL+3 1CAPITAL_LETTER_EGYPTOLOGICAL_AIN 1SMALL+3
1CAPITAL_LETTER_HENG 1SMALL+2 1CAPITAL_LETTER_TZ 1SMALL+2 1CAPITAL_LETTER_TRESILLO 1SMALL+2
1CAPITAL_LETTER_CUATRILLO 1SMALL+2 1CAPITAL_LETTER_CUATRILLO_WITH_COMMA 1SMALL+4
1LETTER_SMALL_CAPITAL_F 4S 1CAPITAL_LETTER_AA 1SMALL+2 1CAPITAL_LETTER_AO 1SMALL+2
1CAPITAL_LETTER_AU 1SMALL+2 1CAPITAL_LETTER_AV 1SMALL+2 1CAPITAL_LETTER_AV_WITH_HORIZONTAL_BAR
1SMALL+5 1CAPITAL_LETTER_AY 1SMALL+2 1CAPITAL_LETTER_REVERSED_C_WITH_DOT 1SMALL+5
1CAPITAL_LETTER_K_WITH_STROKE 1SMALL+4 1CAPITAL_LETTER_K_WITH_DIAGONAL+1 1SMALL+5
1CAPITAL_LETTER_K_WITH_STROKE_AND+2 1SMALL+7 1CAPITAL_LETTER_BROKEN_L 1SMALL+3
1CAPITAL_LETTER_L_WITH_HIGH_STROKE 1SMALL+5 1CAPITAL_LETTER_O_WITH_LONG_STROKE_OVERLAY 1SMALL+6
1CAPITAL_LETTER_O_WITH_LOOP 1SMALL+4 1CAPITAL_LETTER_OO 1SMALL+2
1CAPITAL_LETTER_P_WITH_STROKE_THROUGH_DESCENDER 1SMALL+6 1CAPITAL_LETTER_P_WITH_FLOURISH 1SMALL+4
1CAPITAL_LETTER_P_WITH_SQUIRREL_TAIL 1SMALL+5 1CAPITAL_LETTER_Q_WITH_STROKE_THROUGH_DESCENDER
1SMALL+6 1CAPITAL_LETTER_Q_WITH_DIAGONAL_STROKE 1SMALL+5 1CAPITAL_LETTER_R_ROTUNDA 1SMALL+3
1CAPITAL_LETTER_RUM+1 1SMALL+3 1CAPITAL_LETTER_V_WITH_DIAGONAL_STROKE 1SMALL+5 1CAPITAL_LETTER_VY
1SMALL+2 1CAPITAL_LETTER_VISIGOTHIC_Z 1SMALL+3 1CAPITAL_LETTER_THORN_WITH_STROKE 1SMALL+4
1CAPITAL_LETTER_THORN_WITH_STROKE_THROUGH_DESCENDER 1SMALL+6 1CAPITAL_LETTER_VEND 1SMALL+2
1CAPITAL_LETTER_ET 1SMALL+2 1CAPITAL_LETTER_IS 1SMALL+2 1CAPITAL_LETTER_CON 1SMALL+2
0MODIFIER_LETTER_US 0LATIN_SMALL_LETTER_DUM 3LUM 3MUM 3NUM 3RUM 1LETTER_SMALL_CAPITAL+1
1SMALL_LETTER_TUM 3UM 1CAPITAL_LETTER_INSULAR_D 1SMALL+3 1CAPITAL_LETTER_INSULAR_F 1SMALL+3
1CAPITAL_LETTER_INSULAR_G 3TURNED+2 1SMALL+4 1CAPITAL_LETTER_TURNED_L 1SMALL+3
1CAPITAL_LETTER_INSULAR_R 1SMALL+3 1CAPITAL_LETTER_INSULAR_S 1SMALL+3 1CAPITAL_LETTER_INSULAR_T
1SMALL+3 0MODIFIER_LETTER_LOW_CIRCUMFLEX_ACCENT 2COLON 2SHORT_EQUALS_SIGN
0LATIN_CAPITAL_LETTER_SALTILLO 1SMALL+2 1CAPITAL_LETTER_TURNED_H
1SMALL_LETTER_L_WITH_RETROFLEX_HOOK_AND_BELT 1LETTER_SINOLOGICAL_DOT
1CAPITAL_LETTER_N_WITH_DESCENDER 1SMALL+4 1CAPITAL_LETTER_C_WITH_BAR 1SMALL+4 5PALATAL_HOOK 3H+3
1CAPITAL_LETTER_B_WITH_FLOURISH 1SMALL+4 1CAPITAL_LETTER_F_WITH_STROKE 1SMALL+4
1CAPITAL_LETTER_VOLAPUK_AE 1SMALL+3 1CAPITAL_LETTER_VOLAPUK_OE 1SMALL+3 1CAPITAL_LETTER_VOLAPUK_UE
1SMALL+3 1CAPITAL_LETTER_G_WITH_OBLIQUE_STROKE 1SMALL+5 1CAPITAL_LETTER_K+3 1SMALL+5
1CAPITAL_LETTER_N+3 1SMALL+5 1CAPITAL_LETTER_R+3 1SMALL+5 1CAPITAL_LETTER_S+3 1SMALL+5
1CAPITAL_LETTER_H_WITH_HOOK 3REVERSED_OPEN_E 3SCRIPT_G 3L_WITH_BELT 3SMALL_CAPITAL_I
1LETTER_SMALL_CAPITAL_Q 1CAPITAL_LETTER_TURNED_K 4T 3J_WITH_CROSSED-TAIL 3CHI 3BETA 1SMALL+2
1CAPITAL_LETTER_OMEGA 1SMALL+2 1CAPITAL_LETTER_U_WITH_STROKE 1SMALL+4 1CAPITAL_LETTER_GLOTTAL_A
1SMALL+3 1CAPITAL_LETTER_GLOTTAL_I 1SMALL+3 1CAPITAL_LETTER_GLOTTAL_U 1SMALL+3
1CAPITAL_LETTER_OLD_POLISH_O 1SMALL+4 1CAPITAL_LETTER_ANGLICANA_W 1SMALL+3
1CAPITAL_LETTER_C_WITH_PALATAL_HOOK 3S_WITH+1 3Z_WITH_PALATAL+1 3D_WITH_SHORT_STROKE_OVERLAY
1SMALL+6 1CAPITAL_LETTER_S+4 1SMALL+6 @A7D0 1CAPITAL_LETTER_CLOSED_INSULAR_G 1SMALL+4 @A7D3
3DOUBLE_THORN @A7D5 4WYNN 1CAPITAL_LETTER_MIDDLE_SCOTS_S 1SMALL+4 1CAPITAL_LETTER_SIGMOID+1
1SMALL+3 @A7F2 0MODIFIER_LETTER_CAPITAL_C 3F 3Q 0LATIN_CAPITAL_LETTER_REVERSED_HALF_H 1SMALL+4
1EPIGRAPHIC_LETTER_SIDEWAYS_I 0MODIFIER_LETTER_CAPITAL_H_WITH_STROKE 2SMALL_LIGATURE_OE
0LATIN_LETTER_SMALL_CAPITAL_TURNED_M 1EPIGRAPHIC_LETTER_REVERSED_F 4P 3INVERTED_M 3I_LONGA
3ARCHAIC_M 0SYLOTI_NAGRI_LETTER_A 3I 2SIGN_DVISVARA 2LETTER_U 3E 3O 2SIGN_HASANTA 2LETTER_KO 3KHO
3GO 3GHO 2SIGN_ANUSVARA 2LETTER_CO 3CHO 3JO 3JHO 3TTO 3TTHO 3DDO 3DDHO 3TO 3THO 3DO 3DHO 3NO 3PO
3PHO 3BO 3BHO 3MO 3RO 3LO 3RRO 3SO 3HO 2VOWEL_SIGN_A 4I 4U 4E 4OO 2POETRY_MARK-1 3MARK-2 3MARK-3
3MARK-4 2SIGN_ALTERNATE_HASANTA @A830 0NORTH_INDIC_FRACTION_ONE_QUARTER 4HALF 3THREE_QUARTERS
3ONE_SIXTEENTH 4EIGHTH 3THREE_SIXTEENTHS 2QUARTER_MARK 2PLACEHOLDER+1 2RUPEE+1 2QUANTITY+1 @A840
0PHAGS-PA_LETTER_KA 2KHA 2GA 2NGA 2CA 2CHA 2JA 2NYA 2TA 2THA 2DA 2NA 2PA 2PHA 2BA 2MA 2TSA 2TSHA
2DZA 2WA 2ZHA 2ZA 2SMALL_A 2YA 2RA 2LA 2SHA 2SA 2HA 2A 2I 2U 2E 2O 2QA 2XA 2FA 2GGA 2EE
1SUBJOINED_LETTER_WA 3YA 1LETTER_TTA 2TTHA 2DDA 2NNA 2ALTERNATE_YA 2VOICELESS_SHA 2VOICED_HA
2ASPIRATED_FA 1SUBJOINED_LETTER_RA 1SUPERFIXED+2 1LETTER_CANDRABINDU 1SINGLE_HEAD_MARK 1DOUBLE+2
1MARK_SHAD 2DOUBLE+1 @A880 0SAURASHTRA_SIGN_ANUSVARA 2VISARGA 1LETTER_A 2AA 2I 2II 2U 2UU
2VOCALIC_R 3RR 3L 3LL 2E 2EE 2AI 2O 2OO 2AU 2KA 2KHA 2GA 2GHA 2NGA 2CA 2CHA 2JA 2JHA 2NYA 2TTA
2TTHA 2DDA 2DDHA 2NNA 2TA 2THA 2DA 2DHA 2NA 2PA 2PHA 2BA 2BHA 2MA 2YA 2RA 2LA 2VA 2SHA 2SSA 2SA 2HA
2LLA 1CONSONANT_SIGN_HAARU 1VOWEL_SIGN_AA 3I 3II 3U 3UU 3VOCALIC_R 4RR 4L 4LL 3E 3EE 3AI 3O 3OO 3AU
1SIGN_VIRAMA 2CANDRABINDU @A8CE 1DANDA 1DOUBLE+1 1DIGIT_ZERO 2ONE 2TWO 2THREE 2FOUR 2FIVE 2SIX
2SEVEN 2EIGHT 2NINE @A8E0 0COMBINING_DEVANAGARI_DIGIT_ZERO 3ONE 3TWO 3THREE 3FOUR 3FIVE 3SIX 3SEVEN
3EIGHT 3NINE 2LETTER_A 3U 3KA 3NA 3PA 3RA 3VI 2SIGN_AVAGRAHA 0DEVANAGARI_SIGN_SPACING_CANDRABINDU
2CANDRABINDU_VIRAMA 2DOUBLE+2 2CANDRABINDU_TWO 3THREE 3AVAGRAHA 2PUSHPIKA 1GAP_FILLER 1CARET
1HEADSTROKE 1SIGN_SIDDHAM 1JAIN_OM 1LETTER_AY 1VOWEL_SIGN+1 0KAYAH_LI_DIGIT_ZERO 3ONE 3TWO 3THREE
3FOUR 3FIVE 3SIX 3SEVEN 3EIGHT 3NINE 2LETTER_KA 3KHA 3GA 3NGA 3SA 3SHA 3ZA 3NYA 3TA 3HTA 3NA 3PA
3PHA 3MA 3DA 3BA 3RA 3YA 3LA 3WA 3THA 3HA 3VA 3CA 3A 3OE 3I 3OO 2VOWEL_UE 3E 3U 3EE 3O 2TONE_PLOPHU
3CALYA 4PLOPHU 2SIGN_CWI 3SHYA 0REJANG_LETTER_KA 2GA 2NGA 2TA 2DA 2NA 2PA 2BA 2MA 2CA 2JA 2NYA 2SA
2RA 2LA 2YA 2WA 2HA 2MBA 2NGGA 2NDA 2NYJA 2A 1VOWEL_SIGN_I 3U 3E 3AI 3O 3AU 3EU 3EA
1CONSONANT_SIGN_NG 3N 3R 3H 1VIRAMA @A95F 1SECTION_MARK 0HANGUL_CHOSEONG_TIKEUT-MIEUM 2TIKEUT-PIEUP
2TIKEUT-SIOS 2TIKEUT-CIEUC 2RIEUL-KIYEOK 2RIEUL-SSANGKIYEOK 2RIEUL-TIKEUT 2RIEUL-SSANGTIKEUT
2RIEUL-MIEUM 2RIEUL-PIEUP 2RIEUL-SSANGPIEUP 2RIEUL-KAPYEOUNPIEUP 2RIEUL-SIOS 2RIEUL-CIEUC
2RIEUL-KHIEUKH 2MIEUM-KIYEOK 2MIEUM-TIKEUT 2MIEUM-SIOS 2PIEUP-SIOS-THIEUTH 2PIEUP-KHIEUKH
2PIEUP-HIEUH 2SSANGSIOS-PIEUP 2IEUNG-RIEUL 2IEUNG-HIEUH 2SSANGCIEUC-HIEUH 2SSANGTHIEUTH
2PHIEUPH-HIEUH 2HIEUH-SIOS 2SSANGYEORINHIEUH @A980 0JAVANESE_SIGN_PANYANGGA 2CECAK 2LAYAR 2WIGNYAN
1LETTER_A 2I_KAWI 3 2II 2U 2PA_CEREK 2NGA_LELET 4RASWADI 2E 2AI 2O 2KA 3SASAK 3MURDA 2GA 3MURDA
2NGA 2CA 3MURDA 2JA 2NYA_MURDA 2JA_MAHAPRANA 2NYA 2TTA 3MAHAPRANA 2DDA 3MAHAPRANA 2NA_MURDA 2TA
3MURDA 2DA 3MAHAPRANA 2NA 2PA 3MURDA 2BA 3MURDA 2MA 2YA 2RA 3AGUNG 2LA 2WA 2SA_MURDA 3MAHAPRANA 3
2HA 1SIGN_CECAK_TELU 1VOWEL_SIGN_TARUNG 3TOLONG 3WULU 4MELIK 3SUKU 4MENDUT 3TALING 3DIRGA_MURE
3PEPET 1CONSONANT_SIGN_KERET 3PENGKAL 3CAKRA 1PANGKON 1LEFT_RERENGGAN 1RIGHT+1 1PADA_ANDAP 2MADYA
2LUHUR 2WINDU 2PANGKAT 2LINGSA 2LUNGSI 2ADEG 3ADEG 2PISELEH 1TURNED+2 @A9CF 1PANGRANGKEP
1DIGIT_ZERO 2ONE 2TWO 2THREE 2FOUR 2FIVE 2SIX 2SEVEN 2EIGHT 2NINE @A9DE 1PADA_TIRTA_TUMETES
2ISEN-ISEN 0MYANMAR_LETTER_SHAN_GHA 3CHA 3JHA 3NNA 3BHA 1SIGN_SHAN_SAW
1MODIFIER_LETTER_SHAN_REDUPLICATION 1LETTER_TAI_LAING_NYA 4FA 4GA 4GHA 4JA 4JHA 4DDA 4DDHA 4NNA
1TAI_LAING_DIGIT_ZERO 4ONE 4TWO 4THREE 4FOUR 4FIVE 4SIX 4SEVEN 4EIGHT 4NINE 1LETTER_TAI_LAING_LLA
4DA 4DHA 4BA 4BHA @AA00 0CHAM_LETTER_A 2I 2U 2E 2AI 2O 2KA 2KHA 2GA 2GHA 2NGUE 2NGA 2CHA 2CHHA 2JA
2JHA 2NHUE 2NHA 2NHJA 2TA 2THA 2DA 2DHA 2NUE 2NA 2DDA 2PA 2PPA 2PHA 2BA 2BHA 2MUE 2MA 2BBA 2YA 2RA
2LA 2VA 2SSA 2SA 2HA 1VOWEL_SIGN_AA 3I 3II 3EI 3U 3OE 3O 3AI 3AU 3UE 1CONSONANT_SIGN_YA 3RA 3LA 3WA
@AA40 1LETTER_FINAL_K 3G 3NG 1CONSONANT_SIGN+2 1LETTER_FINAL_CH 3T 3N 3P 3Y 3R 3L 3SS
1CONSONANT_SIGN_FINAL_M 4H @AA50 1DIGIT_ZERO 2ONE 2TWO 2THREE 2FOUR 2FIVE 2SIX 2SEVEN 2EIGHT 2NINE
@AA5C 1PUNCTUATION_SPIRAL 2DANDA 2DOUBLE+1 2TRIPLE+1 0MYANMAR_LETTER_KHAMTI_GA 3CA 3CHA 3JA 3JHA
3NYA 3TTA 3TTHA 3DDA 3DDHA 3DHA 3NA 3SA 3HA 3HHA 3FA 1MODIFIER_LETTER_KHAMTI_REDUPLICATION
1LETTER_KHAMTI_XA 3ZA 3RA 1LOGOGRAM_KHAMTI_OAY 3QN 3HM 1SYMBOL_AITON_EXCLAMATION 3ONE 3TWO
1LETTER_AITON_RA 1SIGN_PAO_KAREN_TONE 2TAI_LAING_TONE-2 4TONE-5 1LETTER_SHWE_PALAUNG_CHA 4SHA
0TAI_VIET_LETTER_LOW_KO 3HIGH+1 3LOW_KHO 3HIGH+1 3LOW_KHHO 3HIGH+1 3LOW_GO 3HIGH+1 3LOW_NGO 3HIGH+1
3LOW_CO 3HIGH+1 3LOW_CHO 3HIGH+1 3LOW_SO 3HIGH+1 3LOW_NYO 3HIGH+1 3LOW_DO 3HIGH+1 3LOW_TO 3HIGH+1
3LOW_THO 3HIGH+1 3LOW_NO 3HIGH+1 3LOW_BO 3HIGH+1 3LOW_PO 3HIGH+1 3LOW_PHO 3HIGH+1 3LOW_FO 3HIGH+1
3LOW_MO 3HIGH+1 3LOW_YO 3HIGH+1 3LOW_RO 3HIGH+1 3LOW_LO 3HIGH+1 3LOW_VO 3HIGH+1 3LOW_HO 3HIGH+1
3LOW_O 3HIGH+1 2MAI_KANG 2VOWEL_AA 3I 3UE 3U 3E 3O 2MAI_KHIT 2VOWEL_IA 3UEA 3UA 3AUE 3AY 3AN 3AM
2TONE_MAI_EK 4NUENG 4THO 4SONG @AADB 2SYMBOL_KON 3NUENG 3SAM 3HO_HOI 3KOI_KOI
0MEETEI_MAYEK_LETTER_E 3O 3CHA 3NYA 3TTA 3TTHA 3DDA 3DDHA 3NNA 3SHA 3SSA 2VOWEL_SIGN_II 4UU 4AAI
4AU 4AAU 2CHEIKHAN 2AHANG_KHUDAM 2ANJI 2SYLLABLE_REPETITION_MARK 2WORD+2 2VOWEL_SIGN_VISARGA
2VIRAMA @AB01 0ETHIOPIC_SYLLABLE_TTHU 2TTHI 2TTHAA 2TTHEE 2TTHE 2TTHO @AB09 2DDHU 2DDHI 2DDHAA
2DDHEE 2DDHE 2DDHO @AB11 2DZU 2DZI 2DZAA 2DZEE 2DZE 2DZO @AB20 2CCHHA 2CCHHU 2CCHHI 2CCHHAA 2CCHHEE
2CCHHE 2CCHHO @AB28 2BBA 2BBU 2BBI 2BBAA 2BBEE 2BBE 2BBO @AB30 0LATIN_SMALL_LETTER_BARRED_ALPHA
3A_REVERSED-SCHWA 3BLACKLETTER_E 3BARRED+1 3E_WITH_FLOURISH 3LENIS_F 3SCRIPT_G_WITH_CROSSED-TAIL
3L_WITH_INVERTED_LAZY_S 5DOUBLE_MIDDLE_TILDE 5MIDDLE_RING 3M_WITH_CROSSED-TAIL 3N+2 3ENG+2
3BLACKLETTER_O 5WITH_STROKE 3OPEN+3 3INVERTED_OE 3TURNED_OE_WITH_STROKE 6HORIZONTAL+1 4O_OPEN-O
6WITH_STROKE 3STIRRUP_R 1LETTER_SMALL_CAPITAL_R_WITH_RIGHT_LEG 1SMALL_LETTER_R_WITHOUT_HANDLE
3DOUBLE_R 3R_WITH_CROSSED-TAIL 3DOUBLE+3 3SCRIPT_R 5WITH_RING 3BASELINE_ESH 3U_WITH_SHORT_RIGHT_LEG
4BAR+4 3UI 3TURNED+1 3U_WITH_LEFT_HOOK 3CHI 4WITH_LOW_RIGHT_RING 6LEFT_SERIF 3X_WITH_LOW_RIGHT_RING
5LONG_LEFT_LEG 8AND_LOW_RIGHT_RING 8WITH_SERIF 3Y_WITH_SHORT_RIGHT_LEG
0MODIFIER_BREVE_WITH_INVERTED_BREVE 1LETTER_SMALL_HENG 3L_WITH_INVERTED_LAZY_S 5MIDDLE_TILDE
3U_WITH_LEFT_HOOK 0LATIN_SMALL_LETTER_SAKHA_YAT 3IOTIFIED_E 3OPEN_OE 3UO 3INVERTED_ALPHA
0GREEK_LETTER_SMALL_CAPITAL_OMEGA 0LATIN_SMALL_LETTER_DZ_DIGRAPH_WITH_RETROFLEX_HOOK 3TS+4
3TURNED_R_WITH_MIDDLE_TILDE 0MODIFIER_LETTER_SMALL_TURNED_W 2LEFT_TACK 2RIGHT+1 @AB70
0CHEROKEE_SMALL_LETTER_A 3E 3I 3O 3U 3V 3GA 3KA 3GE 3GI 3GO 3GU 3GV 3HA 3HE 3HI 3HO 3HU 3HV 3LA 3LE
3LI 3LO 3LU 3LV 3MA 3ME 3MI 3MO 3MU 3NA 3HNA 3NAH 3NE 3NI 3NO 3NU 3NV 3QUA 3QUE 3QUI 3QUO 3QUU 3QUV
3SA 3S 3SE 3SI 3SO 3SU 3SV 3DA 3TA 3DE 3TE 3DI 3TI 3DO 3DU 3DV 3DLA 3TLA 3TLE 3TLI 3TLO 3TLU 3TLV
3TSA 3TSE 3TSI 3TSO 3TSU 3TSV 3WA 3WE 3WI 3WO 3WU 3WV 3YA 0MEETEI_MAYEK_LETTER_KOK 3SAM 3LAI 3MIT
3PA 3NA 3CHIL 3TIL 3KHOU 3NGOU 3THOU 3WAI 3YANG 3HUK 3UN 3I 3PHAM 3ATIYA 3GOK 3JHAM 3RAI 3BA 3JIL
3DIL 3GHOU 3DHOU 3BHAM 3KOK_LONSUM 3LAI+1 3MIT+1 3PA+1 3NA+1 3TIL+1 3NGOU+1 3I+1 2VOWEL_SIGN_ONAP
4INAP 4ANAP 4YENAP 4SOUNAP 4UNAP 4CHEINAP 4NUNG 2CHEIKHEI 2LUM_IYEK 2APUN+1 @ABF0 2DIGIT_ZERO 3ONE
3TWO 3THREE 3FOUR 3FIVE 3SIX 3SEVEN 3EIGHT 3NINE @D7B0 0HANGUL_JUNGSEONG_O-YEO 2O-O-I 2YO-A 2YO-AE
2YO-EO 2U-YEO 2U-I-I 2YU-AE 2YU-O 2EU-A 2EU-EO 2EU-E 2EU-O 2I-YA-O 2I-YAE 2I-YEO 2I-YE 2I-O-I 2I-YO
2I-YU 2I-I 2ARAEA-A 2ARAEA-E @D7CB 1JONGSEONG_NIEUN-RIEUL 2NIEUN-CHIEUCH 2SSANGTIKEUT
2SSANGTIKEUT-PIEUP 2TIKEUT-PIEUP 2TIKEUT-SIOS 2TIKEUT-SIOS-KIYEOK 2TIKEUT-CIEUC 2TIKEUT-CHIEUCH
2TIKEUT-THIEUTH 2RIEUL-SSANGKIYEOK 2RIEUL-KIYEOK-HIEUH 2SSANGRIEUL-KHIEUKH 2RIEUL-MIEUM-HIEUH
2RIEUL-PIEUP-TIKEUT 2RIEUL-PIEUP-PHIEUPH 2RIEUL-YESIEUNG 2RIEUL-YEORINHIEUH-HIEUH 2KAPYEOUNRIEUL
2MIEUM-NIEUN 2MIEUM-SSANGNIEUN 2SSANGMIEUM 2MIEUM-PIEUP-SIOS 2MIEUM-CIEUC 2PIEUP-TIKEUT
2PIEUP-RIEUL-PHIEUPH 2PIEUP-MIEUM 2SSANGPIEUP 2PIEUP-SIOS-TIKEUT 2PIEUP-CIEUC 2PIEUP-CHIEUCH
2SIOS-MIEUM 2SIOS-KAPYEOUNPIEUP 2SSANGSIOS-KIYEOK 2SSANGSIOS-TIKEUT 2SIOS-PANSIOS 2SIOS-CIEUC
2SIOS-CHIEUCH 2SIOS-THIEUTH 2SIOS-HIEUH 2PANSIOS-PIEUP 2PANSIOS-KAPYEOUNPIEUP 2YESIEUNG-MIEUM
2YESIEUNG-HIEUH 2CIEUC-PIEUP 2CIEUC-SSANGPIEUP 2SSANGCIEUC 2PHIEUPH-SIOS 2PHIEUPH-THIEUTH @FB00
0LATIN_SMALL_LIGATURE_FF 3FI 3FL 3FFI 3FFL 3LONG_S_T 3ST @FB13 0ARMENIAN_SMALL_LIGATURE_MEN_NOW
4ECH 4INI 3VEW_NOW 3MEN_XEH @FB1D 0HEBREW_LETTER_YOD_WITH_HIRIQ 1POINT_JUDEO-SPANISH_VARIKA
1LIGATURE_YIDDISH_YOD_YOD_PATAH 1LETTER_ALTERNATIVE_AYIN 2WIDE_ALEF 3DALET 3HE 3KAF 3LAMED
3FINAL_MEM 3RESH 3TAV 2ALTERNATIVE_PLUS_SIGN 2SHIN_WITH_SHIN_DOT 4SIN+1 4DAGESH_AND_SHIN+1 6SIN+1
2ALEF_WITH_PATAH 4QAMATS 4MAPIQ 2BET_WITH_DAGESH 2GIMEL+2 2DALET+2 2HE_WITH_MAPIQ 2VAV_WITH_DAGESH
2ZAYIN+2 @FB38 2TET+2 2YOD+2 2FINAL_KAF+2 2+3 2LAMED+2 @FB3E 2MEM+2 @FB40 2NUN+2 2SAMEKH+2 @FB43
2FINAL_PE+2 2+3 @FB46 2TSADI+2 2QOF+2 2RESH+2 2SHIN+2 2TAV+2 2VAV_WITH_HOLAM 2BET_WITH_RAFE 2KAF+2
2PE+2 1LIGATURE_ALEF_LAMED 0ARABIC_LETTER_ALEF_WASLA_ISOLATED_FORM 4FINAL+1 2BEEH_ISOLATED+1
3FINAL+1 3INITIAL+1 3MEDIAL+1 2PEH_ISOLATED+1 3FINAL+1 3INITIAL+1 3MEDIAL+1 2BEHEH_ISOLATED+1
3FINAL+1 3INITIAL+1 3MEDIAL+1 2TTEHEH_ISOLATED+1 3FINAL+1 3INITIAL+1 3MEDIAL+1 2TEHEH_ISOLATED+1
3FINAL+1 3INITIAL+1 3MEDIAL+1 2TTEH_ISOLATED+1 3FINAL+1 3INITIAL+1 3MEDIAL+1 2VEH_ISOLATED+1
3FINAL+1 3INITIAL+1 3MEDIAL+1 2PEHEH_ISOLATED+1 3FINAL+1 3INITIAL+1 3MEDIAL+1 2DYEH_ISOLATED+1
3FINAL+1 3INITIAL+1 3MEDIAL+1 2NYEH_ISOLATED+1 3FINAL+1 3INITIAL+1 3MEDIAL+1 2TCHEH_ISOLATED+1
3FINAL+1 3INITIAL+1 3MEDIAL+1 2TCHEHEH_ISOLATED+1 3FINAL+1 3INITIAL+1 3MEDIAL+1 2DDAHAL_ISOLATED+1
3FINAL+1 2DAHAL_ISOLATED+1 3FINAL+1 2DUL_ISOLATED+1 3FINAL+1 2DDAL_ISOLATED+1 3FINAL+1
2JEH_ISOLATED+1 3FINAL+1 2RREH_ISOLATED+1 3FINAL+1 2KEHEH_ISOLATED+1 3FINAL+1 3INITIAL+1 3MEDIAL+1
2GAF_ISOLATED+1 3FINAL+1 3INITIAL+1 3MEDIAL+1 2GUEH_ISOLATED+1 3FINAL+1 3INITIAL+1 3MEDIAL+1
2NGOEH_ISOLATED+1 3FINAL+1 3INITIAL+1 3MEDIAL+1 2NOON_GHUNNA_ISOLATED+1 4FINAL+1 2RNOON_ISOLATED+1
3FINAL+1 3INITIAL+1 3MEDIAL+1 2HEH_WITH_YEH_ABOVE_ISOLATED+1 6FINAL+1 3GOAL_ISOLATED+1 4FINAL+1
4INITIAL+1 4MEDIAL+1 3DOACHASHMEE_ISOLATED+1 4FINAL+1 4INITIAL+1 4MEDIAL+1 2YEH_BARREE_ISOLATED+1
4FINAL+1 4WITH_HAMZA_ABOVE_ISOLATED+1 7FINAL+1 1SYMBOL_DOT_ABOVE 3BELOW 2TWO_DOTS_ABOVE 4BELOW
2THREE_DOTS_ABOVE 4BELOW 4POINTING_DOWNWARDS_ABOVE 6BELOW 2FOUR_DOTS_ABOVE 4BELOW
2DOUBLE_VERTICAL_BAR+1 2TWO_DOTS_VERTICALLY_ABOVE 5BELOW 2RING 2SMALL_TAH_ABOVE 4BELOW 2WASLA_ABOVE
@FBD3 1LETTER_NG_ISOLATED_FORM 3FINAL+1 3INITIAL+1 3MEDIAL+1 2U_ISOLATED+1 3FINAL+1 2OE_ISOLATED+1
3FINAL+1 2YU_ISOLATED+1 3FINAL+1 2U_WITH_HAMZA_ABOVE_ISOLATED+1 2VE+2 3FINAL+1
2KIRGHIZ_OE_ISOLATED+1 4FINAL+1 3YU_ISOLATED+1 4FINAL+1 2E_ISOLATED+1 3FINAL+1 3INITIAL+1 3MEDIAL+1
2UIGHUR_KAZAKH_KIRGHIZ_ALEF_MAKSURA_INITIAL+1 7MEDIAL+1
1LIGATURE_YEH_WITH_HAMZA_ABOVE_WITH_ALEF_ISOLATED+1 8FINAL+1 7AE_ISOLATED+1 8FINAL+1
7WAW_ISOLATED+1 8FINAL+1 7U_ISOLATED+1 8FINAL+1 7OE_ISOLATED+1 8FINAL+1 7YU_ISOLATED+1 8FINAL+1
7E_ISOLATED+1 8FINAL+1 8INITIAL+1 2UIGHUR_KIRGHIZ_YEH_WITH_HAMZA_ABOVE_WITH_ALEF_MAKSURA_ISOLATED+1
bFINAL+1 bINITIAL+1 1LETTER_FARSI_YEH_ISOLATED+1 4FINAL+1 4INITIAL+1 4MEDIAL+1
1LIGATURE_YEH_WITH_HAMZA_ABOVE_WITH_JEEM_ISOLATED+1 7HAH+2 7MEEM+2 7ALEF_MAKSURA+2 7YEH+2
2BEH_WITH_JEEM+2 4HAH+2 4KHAH+2 4MEEM+2 4ALEF_MAKSURA+2 4YEH+2 2TEH_WITH_JEEM+2 4HAH+2 4KHAH+2
4MEEM+2 4ALEF_MAKSURA+2 4YEH+2 2THEH_WITH_JEEM+2 4MEEM+2 4ALEF_MAKSURA+2 4YEH+2 2JEEM_WITH_HAH+2
4MEEM+2 2HAH_WITH_JEEM+2 4MEEM+2 2KHAH_WITH_JEEM+2 4HAH+2 4MEEM+2 2SEEN_WITH_JEEM+2 4HAH+2 4KHAH+2
4MEEM+2 2SAD_WITH_HAH+2 4MEEM+2 2DAD_WITH_JEEM+2 4HAH+2 4KHAH+2 4MEEM+2 2TAH_WITH_HAH+2 4MEEM+2
2ZAH+4 2AIN_WITH_JEEM+2 4MEEM+2 2GHAIN_WITH_JEEM+2 4MEEM+2 2FEH_WITH_JEEM+2 4HAH+2 4KHAH+2 4MEEM+2
4ALEF_MAKSURA+2 4YEH+2 2QAF_WITH_HAH+2 4MEEM+2 4ALEF_MAKSURA+2 4YEH+2 2KAF_WITH_ALEF+2 4JEEM+2
4HAH+2 4KHAH+2 4LAM+2 4MEEM+2 4ALEF_MAKSURA+2 4YEH+2 2LAM_WITH_JEEM+2 4HAH+2 4KHAH+2 4MEEM+2
4ALEF_MAKSURA+2 4YEH+2 2MEEM_WITH_JEEM+2 4HAH+2 4KHAH+2 4MEEM+2 4ALEF_MAKSURA+2 4YEH+2
2NOON_WITH_JEEM+2 4HAH+2 4KHAH+2 4MEEM+2 4ALEF_MAKSURA+2 4YEH+2 2HEH_WITH_JEEM+2 4MEEM+2
4ALEF_MAKSURA+2 4YEH+2 2YEH_WITH_JEEM+2 4HAH+2 4KHAH+2 4MEEM+2 4ALEF_MAKSURA+2 4YEH+2
2THAL_WITH_SUPERSCRIPT_ALEF+2 2REH+5 2ALEF_MAKSURA+5 2SHADDA_WITH_DAMMATAN+2 4KASRATAN+2 4FATHA+2
4DAMMA+2 4KASRA+2 4SUPERSCRIPT_ALEF+2 2YEH_WITH_HAMZA_ABOVE_WITH_REH_FINAL+1 7ZAIN+2 7MEEM+2
7NOON+2 7ALEF_MAKSURA+2 7YEH+2 2BEH_WITH_REH+2 4ZAIN+2 4MEEM+2 4NOON+2 4ALEF_MAKSURA+2 4YEH+2
2TEH_WITH_REH+2 4ZAIN+2 4MEEM+2 4NOON+2 4ALEF_MAKSURA+2 4YEH+2 2THEH_WITH_REH+2 4ZAIN+2 4MEEM+2
4NOON+2 4ALEF_MAKSURA+2 4YEH+2 2FEH_WITH_ALEF_MAKSURA+2 4YEH+2 2QAF_WITH_ALEF_MAKSURA+2 4YEH+2
2KAF_WITH_ALEF+2 4LAM+2 4MEEM+2 4ALEF_MAKSURA+2 4YEH+2 2LAM_WITH_MEEM+2 4ALEF_MAKSURA+2 4YEH+2
2MEEM_WITH_ALEF+2 4MEEM+2 2NOON_WITH_REH+2 4ZAIN+2 4MEEM+2 4NOON+2 4ALEF_MAKSURA+2 4YEH+2
2ALEF_MAKSURA_WITH_SUPERSCRIPT_ALEF+2 2YEH_WITH_REH+2 4ZAIN+2 4MEEM+2 4NOON+2 4ALEF_MAKSURA+2
4YEH+2 4HAMZA_ABOVE_WITH_JEEM_INITIAL+1 7HAH+2 7KHAH+2 7MEEM+2 7HEH+2 2BEH_WITH_JEEM+2 4HAH+2
4KHAH+2 4MEEM+2 4HEH+2 2TEH_WITH_JEEM+2 4HAH+2 4KHAH+2 4MEEM+2 4HEH+2 2THEH_WITH_MEEM+2
2JEEM_WITH_HAH+2 4MEEM+2 2HAH_WITH_JEEM+2 4MEEM+2 2KHAH_WITH_JEEM+2 4MEEM+2 2SEEN_WITH_JEEM+2
4HAH+2 4KHAH+2 4MEEM+2 2SAD_WITH_HAH+2 4KHAH+2 4MEEM+2 2DAD_WITH_JEEM+2 4HAH+2 4KHAH+2 4MEEM+2
2TAH_WITH_HAH+2 2ZAH_WITH_MEEM+2 2AIN_WITH_JEEM+2 4MEEM+2 2GHAIN_WITH_JEEM+2 4MEEM+2
2FEH_WITH_JEEM+2 4HAH+2 4KHAH+2 4MEEM+2 2QAF_WITH_HAH+2 4MEEM+2 2KAF_WITH_JEEM+2 4HAH+2 4KHAH+2
4LAM+2 4MEEM+2 2LAM_WITH_JEEM+2 4HAH+2 4KHAH+2 4MEEM+2 4HEH+2 2MEEM_WITH_JEEM+2 4HAH+2 4KHAH+2
4MEEM+2 2NOON_WITH_JEEM+2 4HAH+2 4KHAH+2 4MEEM+2 4HEH+2 2HEH_WITH_JEEM+2 4MEEM+2
4SUPERSCRIPT_ALEF+2 2YEH_WITH_JEEM+2 4HAH+2 4KHAH+2 4MEEM+2 4HEH+2 4HAMZA_ABOVE_WITH_MEEM_MEDIAL+1
7HEH+2 2BEH_WITH_MEEM+2 4HEH+2 2TEH_WITH_MEEM+2 4HEH+2 2THEH_WITH_MEEM+2 4HEH+2 2SEEN_WITH_MEEM+2
4HEH+2 2SHEEN_WITH_MEEM+2 4HEH+2 2KAF_WITH_LAM+2 4MEEM+2 2LAM+4 2NOON+4 4HEH+2 2YEH_WITH_MEEM+2
4HEH+2 2SHADDA_WITH_FATHA+2 4DAMMA+2 4KASRA+2 2TAH_WITH_ALEF_MAKSURA_ISOLATED+1 4YEH+2
2AIN_WITH_ALEF_MAKSURA+2 4YEH+2 2GHAIN_WITH_ALEF_MAKSURA+2 4YEH+2 2SEEN_WITH_ALEF_MAKSURA+2 4YEH+2
2SHEEN_WITH_ALEF_MAKSURA+2 4YEH+2 2HAH_WITH_ALEF_MAKSURA+2 4YEH+2 2JEEM_WITH_ALEF_MAKSURA+2 4YEH+2
2KHAH_WITH_ALEF_MAKSURA+2 4YEH+2 2SAD_WITH_ALEF_MAKSURA+2 4YEH+2 2DAD_WITH_ALEF_MAKSURA+2 4YEH+2
2SHEEN_WITH_JEEM+2 4HAH+2 4KHAH+2 4MEEM+2 4REH+2 2SEEN+4 2SAD+4 2DAD+4
2TAH_WITH_ALEF_MAKSURA_FINAL+1 4YEH+2 2AIN_WITH_ALEF_MAKSURA+2 4YEH+2 2GHAIN_WITH_ALEF_MAKSURA+2
4YEH+2 2SEEN_WITH_ALEF_MAKSURA+2 4YEH+2 2SHEEN_WITH_ALEF_MAKSURA+2 4YEH+2 2HAH_WITH_ALEF_MAKSURA+2
4YEH+2 2JEEM_WITH_ALEF_MAKSURA+2 4YEH+2 2KHAH_WITH_ALEF_MAKSURA+2 4YEH+2 2SAD_WITH_ALEF_MAKSURA+2
4YEH+2 2DAD_WITH_ALEF_MAKSURA+2 4YEH+2 2SHEEN_WITH_JEEM+2 4HAH+2 4KHAH+2 4MEEM+2 4REH+2 2SEEN+4
2SAD+4 2DAD+4 2SHEEN_WITH_JEEM_INITIAL+1 4HAH+2 4KHAH+2 4MEEM+2 2SEEN_WITH_HEH+2 2SHEEN+4
2TAH_WITH_MEEM+2 2SEEN_WITH_JEEM_MEDIAL+1 4HAH+2 4KHAH+2 2SHEEN_WITH_JEEM+2 4HAH+2 4KHAH+2
2TAH_WITH_MEEM+2 2ZAH+4 2ALEF_WITH_FATHATAN_FINAL+1 5ISOLATED+1 0ORNATE_LEFT_PARENTHESIS 1RIGHT+1
0ARABIC_LIGATURE_RAHIMAHU_ALLAAH 2RADI_ALLAAHU_ANH 4ANHAA 4ANHUM 4ANHUMAA 4ANHUNNA
2SALLALLAAHU_ALAYHI_WA-AALIH 2ALAYHI_AS-SALAAM 2ALAYHIM+1 2ALAYHIMAA+1
2ALAYHI_AS-SALAATU_WAS-SALAAM 2QUDDISA_SIRRAH 2SALLALLAHU_ALAYHI_WAAALIHEE_WA-SALLAM
2ALAYHAA_AS-SALAAM 2TABAARAKA_WA-TAAALAA 2RAHIMAHUM_ALLAAH 2TEH_WITH_JEEM_WITH_MEEM_INITIAL_FORM
4HAH_WITH_JEEM_FINAL+1 7INITIAL+1 6MEEM+2 4KHAH+4 4MEEM_WITH_JEEM+2 6HAH+2 6KHAH+2
2JEEM_WITH_MEEM_WITH_HAH_FINAL+1 7INITIAL+1 2HAH_WITH_MEEM_WITH_YEH_FINAL+1 6ALEF_MAKSURA+2
2SEEN_WITH_HAH_WITH_JEEM_INITIAL+1 4JEEM_WITH_HAH+2 6ALEF_MAKSURA_FINAL+1 4MEEM_WITH_HAH+2
7INITIAL+1 6JEEM+2 6MEEM_FINAL+1 7INITIAL+1 2SAD_WITH_HAH_WITH_HAH_FINAL+1 7INITIAL+1
4MEEM_WITH_MEEM_FINAL+1 2SHEEN_WITH_HAH+4 7INITIAL+1 4JEEM_WITH_YEH_FINAL+1 4MEEM_WITH_KHAH+2
7INITIAL+1 6MEEM_FINAL+1 7INITIAL+1 2DAD_WITH_HAH_WITH_ALEF_MAKSURA_FINAL+1 4KHAH_WITH_MEEM+2
7INITIAL+1 2TAH_WITH_MEEM_WITH_HAH_FINAL+1 7INITIAL+1 6MEEM+2 6YEH_FINAL+1
2AIN_WITH_JEEM_WITH_MEEM+2 4MEEM+4 7INITIAL+1 6ALEF_MAKSURA_FINAL+1 2GHAIN_WITH_MEEM_WITH_MEEM+2
6YEH+2 6ALEF_MAKSURA+2 2FEH_WITH_KHAH_WITH_MEEM+2 7INITIAL+1 2QAF_WITH_MEEM_WITH_HAH_FINAL+1
6MEEM+2 2LAM_WITH_HAH+4 6YEH+2 6ALEF_MAKSURA+2 4JEEM_WITH_JEEM_INITIAL+1 7FINAL+1 4KHAH_WITH_MEEM+2
7INITIAL+1 4MEEM_WITH_HAH_FINAL+1 7INITIAL+1 2MEEM_WITH_HAH_WITH_JEEM+2 6MEEM+2 6YEH_FINAL+1
4JEEM_WITH_HAH_INITIAL+1 6MEEM+2 4KHAH_WITH_JEEM+2 6MEEM+2 @FD92 4JEEM_WITH_KHAH+2
2HEH_WITH_MEEM_WITH_JEEM+2 6MEEM+2 2NOON_WITH_HAH+4 6ALEF_MAKSURA_FINAL+1 4JEEM_WITH_MEEM+2
7INITIAL+1 6ALEF_MAKSURA_FINAL+1 4MEEM_WITH_YEH+2 6ALEF_MAKSURA+2 2YEH_WITH_MEEM_WITH_MEEM+2
7INITIAL+1 2BEH_WITH_KHAH_WITH_YEH_FINAL+1 2TEH_WITH_JEEM+4 6ALEF_MAKSURA+2 4KHAH_WITH_YEH+2
6ALEF_MAKSURA+2 4MEEM_WITH_YEH+2 6ALEF_MAKSURA+2 2JEEM_WITH_MEEM_WITH_YEH+2
4HAH_WITH_ALEF_MAKSURA+2 4MEEM+5 2SEEN_WITH_KHAH+5 2SAD_WITH_HAH_WITH_YEH+2 2SHEEN+6 2DAD+6
2LAM_WITH_JEEM+4 4MEEM+4 2YEH_WITH_HAH+4 4JEEM+4 4MEEM+4 2MEEM+6 2QAF+6 2NOON_WITH_HAH+4
2QAF_WITH_MEEM_WITH_HAH_INITIAL+1 2LAM_WITH_HAH_WITH_MEEM+2 2AIN_WITH_MEEM_WITH_YEH_FINAL+1 2KAF+6
2NOON_WITH_JEEM_WITH_HAH_INITIAL+1 2MEEM_WITH_KHAH_WITH_YEH_FINAL+1
2LAM_WITH_JEEM_WITH_MEEM_INITIAL+1 2KAF_WITH_MEEM_WITH_MEEM_FINAL+1 2LAM_WITH_JEEM+4
2NOON_WITH_JEEM_WITH_HAH+2 2JEEM_WITH_HAH_WITH_YEH+2 2HAH_WITH_JEEM+4 2MEEM+6 2FEH_WITH_MEEM+4
2BEH_WITH_HAH+4 2KAF_WITH_MEEM_WITH_MEEM_INITIAL+1 2AIN_WITH_JEEM+4 2SAD_WITH_MEEM+4
2SEEN_WITH_KHAH_WITH_YEH_FINAL+1 2NOON_WITH_JEEM+4 @FDCF 2SALAAMUHU_ALAYNAA @FDF0
2SALLA_USED_AS_KORANIC_STOP_SIGN_ISOLATED_FORM 2QALA+7 2ALLAH+2 2AKBAR+2 2MOHAMMAD+2 2SALAM+2
2RASOUL+2 2ALAYHE+2 2WASALLAM+2 2SALLA+2 2SALLALLAHOU_ALAYHE_WASALLAM 2JALLAJALALOUHOU 0RIAL_SIGN
0ARABIC_LIGATURE_BISMILLAH_AR-RAHMAN_AR-RAHEEM 2SUBHAANAHU_WA_TAAALAA 2AZZA_WA_JALL
0VARIATION_SELECTOR-1 1SELECTOR-2 1SELECTOR-3 1SELECTOR-4 1SELECTOR-5 1SELECTOR-6 1SELECTOR-7
1SELECTOR-8 1SELECTOR-9 1SELECTOR-10 1SELECTOR-11 1SELECTOR-12 1SELECTOR-13 1SELECTOR-14
1SELECTOR-15 1SELECTOR-16 0PRESENTATION_FORM_FOR_VERTICAL_COMMA 4IDEOGRAPHIC+1 5FULL_STOP 4COLON
4SEMICOLON 4EXCLAMATION_MARK 4QUESTION+1 4LEFT_WHITE_LENTICULAR_BRACKET
4RIGHT_WHITE_LENTICULAR_BRAKCET 4HORIZONTAL_ELLIPSIS @FE20 0COMBINING_LIGATURE_LEFT_HALF 2RIGHT+1
1DOUBLE_TILDE_LEFT+1 3RIGHT+1 1MACRON_LEFT+1 2RIGHT+1 1CONJOINING_MACRON 1LIGATURE_LEFT_HALF_BELOW
2RIGHT+2 1TILDE_LEFT+2 2RIGHT+2 1MACRON_LEFT+2 2RIGHT+2 1CONJOINING_MACRON+1
1CYRILLIC_TITLO_LEFT_HALF 3RIGHT+1 0PRESENTATION_FORM_FOR_VERTICAL_TWO_DOT_LEADER 4EM_DASH 4EN+1
4LOW_LINE 4WAVY+2 4LEFT_PARENTHESIS 4RIGHT+1 4LEFT_CURLY_BRACKET 4RIGHT+2 4LEFT_TORTOISE_SHELL+1
4RIGHT+3 4LEFT_BLACK_LENTICULAR+1 4RIGHT+3 4LEFT_DOUBLE_ANGLE+1 4RIGHT+3 4LEFT+2 4RIGHT+2
4LEFT_CORNER+1 4RIGHT+2 4LEFT_WHITE+2 4RIGHT+3 0SESAME_DOT 0WHITE+2
0PRESENTATION_FORM_FOR_VERTICAL_LEFT_SQUARE_BRACKET 4RIGHT+2 0DASHED_OVERLINE 0CENTRELINE+1 0WAVY+1
0DOUBLE+2 0DASHED_LOW_LINE 0CENTRELINE+2 0WAVY+2 0SMALL_COMMA 1IDEOGRAPHIC+1 1FULL_STOP @FE54
1SEMICOLON 1COLON 1QUESTION_MARK 1EXCLAMATION+1 1EM_DASH 1LEFT_PARENTHESIS 1RIGHT+1
1LEFT_CURLY_BRACKET 1RIGHT+2 1LEFT_TORTOISE_SHELL+1 1RIGHT+3 1NUMBER_SIGN 1AMPERSAND 1ASTERISK
1PLUS_SIGN 1HYPHEN-MINUS 1LESS-THAN_SIGN 1GREATER-THAN+1 1EQUALS+1 @FE68 1REVERSE_SOLIDUS
1DOLLAR_SIGN 1PERCENT+1 1COMMERCIAL_AT @FE70 0ARABIC_FATHATAN_ISOLATED_FORM
1TATWEEL_WITH_FATHATAN_ABOVE 1DAMMATAN_ISOLATED_FORM 1TAIL_FRAGMENT 1KASRATAN_ISOLATED_FORM @FE76
1FATHA+2 2MEDIAL+1 1DAMMA_ISOLATED+1 2MEDIAL+1 1KASRA_ISOLATED+1 2MEDIAL+1 1SHADDA_ISOLATED+1
2MEDIAL+1 1SUKUN_ISOLATED+1 2MEDIAL+1 1LETTER_HAMZA_ISOLATED+1 2ALEF_WITH_MADDA_ABOVE+2 6FINAL+1
4HAMZA_ABOVE_ISOLATED+1 6FINAL+1 2WAW_WITH_HAMZA_ABOVE_ISOLATED+1 6FINAL+1
2ALEF_WITH_HAMZA_BELOW_ISOLATED+1 6FINAL+1 2YEH_WITH_HAMZA_ABOVE_ISOLATED+1 6FINAL+1 6INITIAL+1
6MEDIAL+1 2ALEF_ISOLATED+1 3FINAL+1 2BEH_ISOLATED+1 3FINAL+1 3INITIAL+1 3MEDIAL+1
2TEH_MARBUTA_ISOLATED+1 4FINAL+1 3ISOLATED+1 3FINAL+1 3INITIAL+1 3MEDIAL+1 2THEH_ISOLATED+1
3FINAL+1 3INITIAL+1 3MEDIAL+1 2JEEM_ISOLATED+1 3FINAL+1 3INITIAL+1 3MEDIAL+1 2HAH_ISOLATED+1
3FINAL+1 3INITIAL+1 3MEDIAL+1 2KHAH_ISOLATED+1 3FINAL+1 3INITIAL+1 3MEDIAL+1 2DAL_ISOLATED+1
3FINAL+1 2THAL_ISOLATED+1 3FINAL+1 2REH_ISOLATED+1 3FINAL+1 2ZAIN_ISOLATED+1 3FINAL+1
2SEEN_ISOLATED+1 3FINAL+1 3INITIAL+1 3MEDIAL+1 2SHEEN_ISOLATED+1 3FINAL+1 3INITIAL+1 3MEDIAL+1
2SAD_ISOLATED+1 3FINAL+1 3INITIAL+1 3MEDIAL+1 2DAD_ISOLATED+1 3FINAL+1 3INITIAL+1 3MEDIAL+1
2TAH_ISOLATED+1 3FINAL+1 3INITIAL+1 3MEDIAL+1 2ZAH_ISOLATED+1 3FINAL+1 3INITIAL+1 3MEDIAL+1
2AIN_ISOLATED+1 3FINAL+1 3INITIAL+1 3MEDIAL+1 2GHAIN_ISOLATED+1 3FINAL+1 3INITIAL+1 3MEDIAL+1
2FEH_ISOLATED+1 3FINAL+1 3INITIAL+1 3MEDIAL+1 2QAF_ISOLATED+1 3FINAL+1 3INITIAL+1 3MEDIAL+1
2KAF_ISOLATED+1 3FINAL+1 3INITIAL+1 3MEDIAL+1 2LAM_ISOLATED+1 3FINAL+1 3INITIAL+1 3MEDIAL+1
2MEEM_ISOLATED+1 3FINAL+1 3INITIAL+1 3MEDIAL+1 2NOON_ISOLATED+1 3FINAL+1 3INITIAL+1 3MEDIAL+1
2HEH_ISOLATED+1 3FINAL+1 3INITIAL+1 3MEDIAL+1 2WAW_ISOLATED+1 3FINAL+1 2ALEF_MAKSURA_ISOLATED+1
4FINAL+1 2YEH_ISOLATED+1 3FINAL+1 3INITIAL+1 3MEDIAL+1
1LIGATURE_LAM_WITH_ALEF_WITH_MADDA_ABOVE_ISOLATED+1 8FINAL+1 6HAMZA_ABOVE_ISOLATED+1 8FINAL+1
7BELOW_ISOLATED+1 8FINAL+1 5ISOLATED+1 5FINAL+1 @FEFF 0ZERO_WIDTH_NO-BREAK_SPACE @FF01
0FULLWIDTH_EXCLAMATION_MARK 1QUOTATION+1 1NUMBER_SIGN 1DOLLAR+1 1PERCENT+1 1AMPERSAND 1APOSTROPHE
1LEFT_PARENTHESIS 1RIGHT+1 1ASTERISK 1PLUS_SIGN 1COMMA 1HYPHEN-MINUS 1FULL_STOP 1SOLIDUS
1DIGIT_ZERO 2ONE 2TWO 2THREE 2FOUR 2FIVE 2SIX 2SEVEN 2EIGHT 2NINE 1COLON 1SEMICOLON 1LESS-THAN_SIGN
1EQUALS+1 1GREATER-THAN+1 1QUESTION_MARK 1COMMERCIAL_AT 1LATIN_CAPITAL_LETTER_A 4B 4C 4D 4E 4F 4G
4H 4I 4J 4K 4L 4M 4N 4O 4P 4Q 4R 4S 4T 4U 4V 4W 4X 4Y 4Z 1LEFT_SQUARE_BRACKET 1REVERSE_SOLIDUS
1RIGHT_SQUARE_BRACKET 1CIRCUMFLEX_ACCENT 1LOW_LINE 1GRAVE_ACCENT 1LATIN_SMALL_LETTER_A 4B 4C 4D 4E
4F 4G 4H 4I 4J 4K 4L 4M 4N 4O 4P 4Q 4R 4S 4T 4U 4V 4W 4X 4Y 4Z 1LEFT_CURLY_BRACKET 1VERTICAL_LINE
1RIGHT_CURLY_BRACKET 1TILDE 1LEFT_WHITE_PARENTHESIS 1RIGHT+2 0HALFWIDTH_IDEOGRAPHIC_FULL_STOP
1LEFT_CORNER_BRACKET 1RIGHT+2 1IDEOGRAPHIC_COMMA 1KATAKANA_MIDDLE_DOT 2LETTER_WO 3SMALL_A 4I 4U 4E
4O 4YA 4YU 4YO 4TU 1KATAKANA-HIRAGANA_PROLONGED_SOUND_MARK 1KATAKANA_LETTER_A 3I 3U 3E 3O 3KA 3KI
3KU 3KE 3KO 3SA 3SI 3SU 3SE 3SO 3TA 3TI 3TU 3TE 3TO 3NA 3NI 3NU 3NE 3NO 3HA 3HI 3HU 3HE 3HO 3MA 3MI
3MU 3ME 3MO 3YA 3YU 3YO 3RA 3RI 3RU 3RE 3RO 3WA 3N 2VOICED_SOUND_MARK 2SEMI-VOICED+2 1HANGUL_FILLER
2LETTER_KIYEOK 3SSANGKIYEOK 3KIYEOK-SIOS 3NIEUN 3NIEUN-CIEUC 3NIEUN-HIEUH 3TIKEUT 3SSANGTIKEUT
3RIEUL 3RIEUL-KIYEOK 3RIEUL-MIEUM 3RIEUL-PIEUP 3RIEUL-SIOS 3RIEUL-THIEUTH 3RIEUL-PHIEUPH
3RIEUL-HIEUH 3MIEUM 3PIEUP 3SSANGPIEUP 3PIEUP-SIOS 3SIOS 3SSANGSIOS 3IEUNG 3CIEUC 3SSANGCIEUC
3CHIEUCH 3KHIEUKH 3THIEUTH 3PHIEUPH 3HIEUH @FFC2 3A 3AE 3YA 3YAE 3EO 3E @FFCA 3YEO 3YE 3O 3WA 3WAE
3OE @FFD2 3YO 3U 3WEO 3WE 3WI 3YU @FFDA 3EU 3YI 3I @FFE0 0FULLWIDTH_CENT_SIGN 1POUND+1 1NOT+1
1MACRON 1BROKEN_BAR 1YEN_SIGN 1WON+1 @FFE8 0HALFWIDTH_FORMS_LIGHT_VERTICAL 1LEFTWARDS_ARROW
1UPWARDS+1 1RIGHTWARDS+1 1DOWNWARDS+1 1BLACK_SQUARE 1WHITE_CIRCLE @FFF9
0INTERLINEAR_ANNOTATION_ANCHOR 2SEPARATOR 2TERMINATOR 0OBJECT_REPLACEMENT_CHARACTER 0+2 @10000
0LINEAR_B_SYLLABLE_B008_A 3B038_E 3B028_I 3B061_O 3B010_U 3B001_DA 3B045_DE 3B007_DI 3B014_DO
3B051_DU 3B057_JA 3B046_JE @1000D 3B036_JO 3B065_JU 3B077_KA 3B044_KE 3B067_KI 3B070_KO 3B081_KU
3B080_MA 3B013_ME 3B073_MI 3B015_MO 3B023_MU 3B006_NA 3B024_NE 3B030_NI 3B052_NO 3B055_NU 3B003_PA
3B072_PE 3B039_PI 3B011_PO 3B050_PU 3B016_QA 3B078_QE 3B021_QI 3B032_QO @10028 3B060_RA 3B027_RE
3B053_RI 3B002_RO 3B026_RU 3B031_SA 3B009_SE 3B041_SI 3B012_SO 3B058_SU 3B059_TA 3B004_TE 3B037_TI
3B005_TO 3B069_TU 3B054_WA 3B075_WE 3B040_WI 3B042_WO @1003C 3B017_ZA 3B074_ZE @1003F 3B020_ZO
3B025_A2 3B043_A3 3B085_AU 3B071_DWE 3B090_DWO 3B048_NWA 3B029_PU2 3B062_PTE 3B076_RA2 3B033_RA3
3B068_RO2 3B066_TA2 3B087_TWE 3B091_TWO @10050 2SYMBOL_B018 3B019 3B022 3B034 3B047 3B049 3B056
3B063 3B064 3B079 3B082 3B083 3B086 3B089 @10080 2IDEOGRAM_B100_MAN 3B102_WOMAN 3B104_DEER
3B105_EQUID 3B105F_MARE 3B105M_STALLION 3B106F_EWE 3B106M_RAM 3B107F_SHE-GOAT 3B107M_HE-GOAT
3B108F_SOW 3B108M_BOAR 3B109F_COW 3B109M_BULL 3B120_WHEAT 3B121_BARLEY 3B122_OLIVE 3B123_SPICE
3B125_CYPERUS 2MONOGRAM_B127_KAPO 3B128_KANAKO 2IDEOGRAM_B130_OIL 3B131_WINE 3B132
2MONOGRAM_B133_AREPA 3B135_MERI 2IDEOGRAM_B140_BRONZE 3B141_GOLD 3B142 3B145_WOOL 3B146 3B150
3B151_HORN 3B152 3B153 3B154 2MONOGRAM_B156_TURO2 2IDEOGRAM_B157 3B158 3B159_CLOTH 3B160 3B161
3B162_GARMENT 3B163_ARMOUR 3B164 3B165 3B166 3B167 3B168 3B169 3B170 3B171 3B172 3B173_MONTH 3B174
3B176_TREE 3B177 3B178 3B179 3B180 3B181 3B182 3B183 3B184 3B185 3B189 3B190 3B191_HELMET
3B220_FOOTSTOOL 3B225_BATHTUB 3B230_SPEAR 3B231_ARROW 3B232 3B233_SWORD 3B234 3B236
3B240_WHEELED_CHARIOT 3B241+1 3B242_CHARIOT_FRAME 3B243_WHEEL 3B245 3B246 2MONOGRAM_B247_DIPTE
2IDEOGRAM_B248 3B249 3B251 3B252 3B253 3B254_DART 3B255 3B256 3B257 3B258 3B259 3VESSEL_B155 4B200
4B201 4B202 4B203 4B204 4B205 4B206 4B207 4B208 4B209 4B210 4B211 4B212 4B213 4B214 4B215 4B216
4B217 4B218 4B219 4B221 4B222 4B226 4B227 4B228 4B229 4B250 4B305 @10100
0AEGEAN_WORD_SEPARATOR_LINE 3DOT 1CHECK_MARK @10107 1NUMBER_ONE 2TWO 2THREE 2FOUR 2FIVE 2SIX 2SEVEN
2EIGHT 2NINE 2TEN 2TWENTY 2THIRTY 2FORTY 2FIFTY 2SIXTY 2SEVENTY 2EIGHTY 2NINETY 2ONE_HUNDRED 2TWO+1
2THREE+1 2FOUR+1 2FIVE+1 2SIX+1 2SEVEN+1 2EIGHT+1 2NINE+1 2ONE_THOUSAND 2TWO+1 2THREE+1 2FOUR+1
2FIVE+1 2SIX+1 2SEVEN+1 2EIGHT+1 2NINE+1 2TEN+1 2TWENTY+1 2THIRTY+1 2FORTY+1 2FIFTY+1 2SIXTY+1
2SEVENTY+1 2EIGHTY+1 2NINETY+1 @10137 1WEIGHT_BASE_UNIT 2FIRST_SUBUNIT 2SECOND+1 2THIRD+1 2FOURTH+1
1DRY_MEASURE_FIRST+1 1LIQUID+3 1MEASURE_SECOND+1 2THIRD+1 0GREEK_ACROPHONIC_ATTIC_ONE_QUARTER 4HALF
4DRACHMA 3FIVE 3FIFTY 3FIVE_HUNDRED 4THOUSAND 3FIFTY+1 3FIVE_TALENTS 3TEN+1 3FIFTY+1 3ONE_HUNDRED+1
3FIVE+2 3ONE_THOUSAND+1 3FIVE+2 4STATERS 3TEN+1 3FIFTY+1 3ONE_HUNDRED+1 3FIVE+2 3ONE_THOUSAND+1
3TEN+2 3FIFTY+2 3TEN_MNAS 2HERAEUM_ONE_PLETHRON 2THESPIAN_ONE 2HERMIONIAN+1 2EPIDAUREAN_TWO
2THESPIAN+1 2CYRENAIC_TWO_DRACHMAS 2EPIDAUREAN+2 2TROEZENIAN_FIVE 3TEN 4ALTERNATE_FORM
2HERMIONIAN_TEN 2MESSENIAN+1 2THESPIAN+1 3THIRTY 2TROEZENIAN_FIFTY 4ALTERNATE_FORM
2HERMIONIAN_FIFTY 2THESPIAN+1 3ONE_HUNDRED 3THREE+1 2EPIDAUREAN_FIVE+1 2TROEZENIAN+2 2THESPIAN+2
2CARYSTIAN+2 2NAXIAN+2 2THESPIAN_ONE_THOUSAND 3FIVE+1 2DELPHIC_FIVE_MNAS 2STRATIAN_FIFTY+1
1ONE_HALF_SIGN 4ALTERNATE_FORM 1TWO_THIRDS_SIGN 1THREE_QUARTERS+1 1YEAR+1 1TALENT+1 1DRACHMA+1
1OBOL+1 1TWO_OBOLS+1 1THREE+2 1FOUR+2 1FIVE+2 1METRETES+1 1KYATHOS_BASE+1 1LITRA+1 1OUNKIA+1
1XESTES+1 1ARTABE+1 1AROURA+1 1GRAMMA+1 1TRYBLION_BASE+1 1ZERO+1 1ONE_QUARTER+1 1SINUSOID+1
1INDICTION+1 0NOMISMA+1 @10190 0ROMAN_SEXTANS+1 1UNCIA+1 1SEMUNCIA+1 1SEXTULA+1 1DIMIDIA+2
1SILIQUA+1 1DENARIUS+1 1QUINARIUS+1 1SESTERTIUS+1 1DUPONDIUS+1 1AS+1 1CENTURIAL+1 0ASCIA_SYMBOL
@101A0 0GREEK_SYMBOL_TAU_RHO @101D0 0PHAISTOS_DISC_SIGN_PEDESTRIAN 3PLUMED_HEAD 3TATTOOED+1
3CAPTIVE 3CHILD 3WOMAN 3HELMET 3GAUNTLET 3TIARA 3ARROW 3BOW 3SHIELD 3CLUB 3MANACLES 3MATTOCK 3SAW
3LID 3BOOMERANG 3CARPENTRY_PLANE 3DOLIUM 3COMB 3SLING 3COLUMN 3BEEHIVE 3SHIP 3HORN 3HIDE 3BULLS_LEG
3CAT 3RAM 3EAGLE 3DOVE 3TUNNY 3BEE 3PLANE_TREE 3VINE 3PAPYRUS 3ROSETTE 3LILY 3OX_BACK 3FLUTE
3GRATER 3STRAINER 3SMALL_AXE 3WAVY_BAND 3COMBINING_OBLIQUE_STROKE @10280 0LYCIAN_LETTER_A 2E 2B 2BH
2G 2D 2I 2W 2Z 2TH 2J 2K 2Q 2L 2M 2N 2MM 2NN 2U 2P 2KK 2R 2S 2T 2TT 2AN 2EN 2H 2X @102A0
0CARIAN_LETTER_A 2P2 2D 2L 2UUU 2R 2LD 2A2 2Q 2B 2M 2O 2D2 2T 2SH 2SH2 2S 2C-18 2U 2NN 2X 2N 2TT2
2P 2SS 2I 2E 2UUUU 2K 2K2 2ND 2UU 2G 2G2 2ST 2ST2 2NG 2II 2C-39 2TT 2UUU2 2RR 2MB 2MB2 2MB3 2MB4
2LD2 2E2 2UUU3 @102E0 0COPTIC_EPACT_THOUSANDS_MARK 2DIGIT_ONE 3TWO 3THREE 3FOUR 3FIVE 3SIX 3SEVEN
3EIGHT 3NINE 2NUMBER_TEN 3TWENTY 3THIRTY 3FORTY 3FIFTY 3SIXTY 3SEVENTY 3EIGHTY 3NINETY 3ONE_HUNDRED
3TWO+1 3THREE+1 3FOUR+1 3FIVE+1 3SIX+1 3SEVEN+1 3EIGHT+1 3NINE+1 @10300 0OLD_ITALIC_LETTER_A 3BE
3KE 3DE 3E 3VE 3ZE 3HE 3THE 3I 3KA 3EL 3EM 3EN 3ESH 3O 3PE 3SHE 3KU 3ER 3ES 3TE 3U 3EKS 3PHE 3KHE
3EF 3ERS 3CHE 3II 3UU 3ESS 2NUMERAL_ONE 3FIVE 3TEN 3FIFTY @1032D 2LETTER_YE 3NORTHERN_TSE
3SOUTHERN+1 0GOTHIC_LETTER_AHSA 2BAIRKAN 2GIBA 2DAGS 2AIHVUS 2QAIRTHRA 2IUJA 2HAGL 2THIUTH 2EIS
2KUSMA 2LAGUS 2MANNA 2NAUTHS 2JER 2URUS 2PAIRTHRA 2NINETY 2RAIDA 2SAUIL 2TEIWS 2WINJA 2FAIHU 2IGGWS
2HWAIR 2OTHAL 2NINE_HUNDRED @10350 0OLD_PERMIC_LETTER_AN 3BUR 3GAI 3DOI 3E 3ZHOI 3DZHOI 3ZATA
3DZITA 3I 3KOKE 3LEI 3MENOE 3NENOE 3VOOI 3PEEI 3REI 3SII 3TAI 3U 3CHERY 3SHOOI 3SHCHOOI 3YRY 3YERU
3O 3OO 3EF 3HA 3TSIU 3VER 3YER 3YERI 3YAT 3IE 3YU 3YA 3IA 0COMBINING_OLD_PERMIC_LETTER_AN 4DOI
4ZATA 4NENOE 4SII @10380 0UGARITIC_LETTER_ALPA 2BETA 2GAMLA 2KHA 2DELTA 2HO 2WO 2ZETA 2HOTA 2TET
2YOD 2KAF 2SHIN 2LAMDA 2MEM 2DHAL 2NUN 2ZU 2SAMKA 2AIN 2PU 2SADE 2QOPA 2RASHA 2THANNA 2GHAIN 2TO 2I
2U 2SSU @1039F 1WORD_DIVIDER 0OLD_PERSIAN_SIGN_A 3I 3U 3KA 3KU 3GA 3GU 3XA 3CA 3JA 3JI 3TA 3TU 3DA
3DI 3DU 3THA 3PA 3BA 3FA 3NA 3NU 3MA 3MI 3MU 3YA 3VA 3VI 3RA 3RU 3LA 3SA 3ZA 3SHA 3SSA 3HA @103C8
3AURAMAZDAA 3AURAMAZDAA-2 3AURAMAZDAAHA 3XSHAAYATHIYA 3DAHYAAUSH 3DAHYAAUSH-2 3BAGA 3BUUMISH
2WORD_DIVIDER 2NUMBER_ONE 3TWO 3TEN 3TWENTY 3HUNDRED @10400 0DESERET_CAPITAL_LETTER_LONG_I 4E 4A
4AH 4O 4OO 3SHORT_I 4E 4A 4AH 4O 4OO 3AY 3OW 3WU 3YEE 3H 3PEE 3BEE 3TEE 3DEE 3CHEE 3JEE 3KAY 3GAY
3EF 3VEE 3ETH 3THEE 3ES 3ZEE 3ESH 3ZHEE 3ER 3EL 3EM 3EN 3ENG 3OI 3EW 1SMALL_LETTER_LONG_I 4E 4A 4AH
4O 4OO 3SHORT_I 4E 4A 4AH 4O 4OO 3AY 3OW 3WU 3YEE 3H 3PEE 3BEE 3TEE 3DEE 3CHEE 3JEE 3KAY 3GAY 3EF
3VEE 3ETH 3THEE 3ES 3ZEE 3ESH 3ZHEE 3ER 3EL 3EM 3EN 3ENG 3OI 3EW 0SHAVIAN_LETTER_PEEP 2TOT 2KICK
2FEE 2THIGH 2SO 2SURE 2CHURCH 2YEA 2HUNG 2BIB 2DEAD 2GAG 2VOW 2THEY 2ZOO 2MEASURE 2JUDGE 2WOE
2HA-HA 2LOLL 2MIME 2IF 2EGG 2ASH 2ADO 2ON 2WOOL 2OUT 2AH 2ROAR 2NUN 2EAT 2AGE 2ICE 2UP 2OAK 2OOZE
2OIL 2AWE 2ARE 2OR 2AIR 2ERR 2ARRAY 2EAR 2IAN 2YEW 0OSMANYA_LETTER_ALEF 2BA 2TA 2JA 2XA 2KHA 2DEEL
2RA 2SA 2SHIIN 2DHA 2CAYN 2GA 2FA 2QAAF 2KAAF 2LAAN 2MIIN 2NUUN 2WAW 2HA 2YA 2A 2E 2I 2O 2U 2AA 2EE
2OO @104A0 1DIGIT_ZERO 2ONE 2TWO 2THREE 2FOUR 2FIVE 2SIX 2SEVEN 2EIGHT 2NINE @104B0
0OSAGE_CAPITAL_LETTER_A 3AI 3AIN 3AH 3BRA 3CHA 3EHCHA 3E 3EIN 3HA 3HYA 3I 3KA 3EHKA 3KYA 3LA 3MA
3NA 3O 3OIN 3PA 3EHPA 3SA 3SHA 3TA 3EHTA 3TSA 3EHTSA 3TSHA 3DHA 3U 3WA 3KHA 3GHA 3ZA 3ZHA @104D8
1SMALL_LETTER_A 3AI 3AIN 3AH 3BRA 3CHA 3EHCHA 3E 3EIN 3HA 3HYA 3I 3KA 3EHKA 3KYA 3LA 3MA 3NA 3O
3OIN 3PA 3EHPA 3SA 3SHA 3TA 3EHTA 3TSA 3EHTSA 3TSHA 3DHA 3U 3WA 3KHA 3GHA 3ZA 3ZHA @10500
0ELBASAN_LETTER_A 2BE 2CE 2CHE 2DE 2NDE 2DHE 2EI 2E 2FE 2GE 2GJE 2HE 2I 2JE 2KE 2LE 2LLE 2ME 2NE
2NA 2NJE 2O 2PE 2QE 2RE 2RRE 2SE 2SHE 2TE 2THE 2U 2VE 2XE 2Y 2ZE 2ZHE 2GHE 2GHAMMA 2KHE @10530
0CAUCASIAN_ALBANIAN_LETTER_ALT 3BET 3GIM 3DAT 3EB 3ZARL 3EYN 3ZHIL 3TAS 3CHA 3YOWD 3ZHA 3IRB 3SHA
3LAN 3INYA 3XEYN 3DYAN 3CAR 3JHOX 3KAR 3LYIT 3HEYT 3QAY 3AOR 3CHOY 3CHI 3CYAY 3MAQ 3QAR 3NOWC
3DZYAY 3SHAK 3JAYN 3ON 3TYAY 3FAM 3DZAY 3CHAT 3PEN 3GHEYS 3RAT 3SEYK 3VEYZ 3TIWR 3SHOY 3IWN 3CYAW
3CAYN 3YAYD 3PIWR 3KIW @1056F 2CITATION_MARK 0VITHKUQI_CAPITAL_LETTER_A 3BBE 3BE 3CE 3CHE 3DE 3DHE
3EI 3E 3FE 3GA @1057C 3HA 3HHA 3I 3IJE 3JE 3KA 3LA 3LLA 3ME 3NE 3NJE 3O 3PE 3QA 3RE @1058C 3SE 3SHE
3TE 3THE 3U 3VE 3XE @10594 3Y 3ZE @10597 1SMALL_LETTER_A 3BBE 3BE 3CE 3CHE 3DE 3DHE 3EI 3E 3FE 3GA
@105A3 3HA 3HHA 3I 3IJE 3JE 3KA 3LA 3LLA 3ME 3NE 3NJE 3O 3PE 3QA 3RE @105B3 3SE 3SHE 3TE 3THE 3U
3VE 3XE @105BB 3Y 3ZE @10600 0LINEAR_A_SIGN_AB001 3AB002 3AB003 3AB004 3AB005 3AB006 3AB007 3AB008
3AB009 3AB010 3AB011 3AB013 3AB016 3AB017 3AB020 3AB021 3AB021F 3AB021M 3AB022 3AB022F 3AB022M
3AB023 3AB023M 3AB024 3AB026 3AB027 3AB028 3A028B 3AB029 3AB030 3AB031 3AB034 3AB037 3AB038 3AB039
3AB040 3AB041 3AB044 3AB045 3AB046 3AB047 3AB048 3AB049 3AB050 3AB051 3AB053 3AB054 3AB055 3AB056
3AB057 3AB058 3AB059 3AB060 3AB061 3AB065 3AB066 3AB067 3AB069 3AB070 3AB073 3AB074 3AB076 3AB077
3AB078 3AB079 3AB080 3AB081 3AB082 3AB085 3AB086 3AB087 3A100-102 3AB118 3AB120 3A120B 3AB122
3AB123 3AB131A 3AB131B 3A131C 3AB164 3AB171 3AB180 3AB188 3AB191 3A301 3A302 3A303 3A304 3A305
3A306 3A307 3A308 3A309A 3A309B 3A309C 3A310 3A311 3A312 3A313A 3A313B 3A313C 3A314 3A315 3A316
3A317 3A318 3A319 3A320 3A321 3A322 3A323 3A324 3A325 3A326 3A327 3A328 3A329 3A330 3A331 3A332
3A333 3A334 3A335 3A336 3A337 3A338 3A339 3A340 3A341 3A342 3A343 3A344 3A345 3A346 3A347 3A348
3A349 3A350 3A351 3A352 3A353 3A354 3A355 3A356 3A357 3A358 3A359 3A360 3A361 3A362 3A363 3A364
3A365 3A366 3A367 3A368 3A369 3A370 3A371 3A400-VAS 3A401-VAS 3A402-VAS 3A403-VAS 3A404-VAS
3A405-VAS 3A406-VAS 3A407-VAS 3A408-VAS 3A409-VAS 3A410-VAS 3A411-VAS 3A412-VAS 3A413-VAS 3A414-VAS
3A415-VAS 3A416-VAS 3A417-VAS 3A418-VAS 3A501 3A502 3A503 3A504 3A505 3A506 3A508 3A509 3A510 3A511
3A512 3A513 3A515 3A516 3A520 3A521 3A523 3A524 3A525 3A526 3A527 3A528 3A529 3A530 3A531 3A532
3A534 3A535 3A536 3A537 3A538 3A539 3A540 3A541 3A542 3A545 3A547 3A548 3A549 3A550 3A551 3A552
3A553 3A554 3A555 3A556 3A557 3A559 3A563 3A564 3A565 3A566 3A568 3A569 3A570 3A571 3A572 3A573
3A574 3A575 3A576 3A577 3A578 3A579 3A580 3A581 3A582 3A583 3A584 3A585 3A586 3A587 3A588 3A589
3A591 3A592 3A594 3A595 3A596 3A598 3A600 3A601 3A602 3A603 3A604 3A606 3A608 3A609 3A610 3A611
3A612 3A613 3A614 3A615 3A616 3A617 3A618 3A619 3A620 3A621 3A622 3A623 3A624 3A626 3A627 3A628
3A629 3A634 3A637 3A638 3A640 3A642 3A643 3A644 3A645 3A646 3A648 3A649 3A651 3A652 3A653 3A654
3A655 3A656 3A657 3A658 3A659 3A660 3A661 3A662 3A663 3A664 @10740 3A701_A 3A702_B 3A703_D 3A704_E
3A705_F 3A706_H 3A707_J 3A708_K 3A709_L 3A709-2_L2 3A709-3_L3 3A709-4_L4 3A709-6_L6 3A710_W 3A711_X
3A712_Y 3A713_OMEGA 3A714_ABB 3A715_BB 3A717_DD 3A726_EYYY 3A732_JE @10760 3A800 3A801 3A802 3A803
3A804 3A805 3A806 3A807 @10780 0MODIFIER_LETTER_SMALL_CAPITAL_AA 2SUPERSCRIPT_TRIANGULAR_COLON
3HALF+2 2SMALL_AE 3CAPITAL_B 3B_WITH_HOOK @10787 3DZ_DIGRAPH 5WITH_RETROFLEX_HOOK 6CURL
3DEZH_DIGRAPH 3D_WITH_TAIL 5HOOK 6AND_TAIL 3REVERSED_E 3CLOSED_REVERSED_OPEN+1 3FENG_DIGRAPH
3RAMS_HORN 3CAPITAL_G 3G_WITH_HOOK 3CAPITAL+3 3H_WITH_STROKE 3CAPITAL_H 3HENG_WITH_HOOK
3DOTLESS_J_WITH_STROKE_AND+1 3LS_DIGRAPH 3LZ+1 3L_WITH_BELT 3CAPITAL+3 3L_WITH_RETROFLEX_HOOK_AND+1
3LEZH 4WITH_RETROFLEX_HOOK 3TURNED_Y 5WITH_BELT 3O_WITH_STROKE 3CAPITAL_OE 3CLOSED_OMEGA 3Q
3TURNED_R_WITH_LONG_LEG 8AND_RETROFLEX_HOOK 3R_WITH_TAIL 5FISHHOOK 3CAPITAL_R 3TC_DIGRAPH_WITH_CURL
3TS_DIGRAPH 5WITH_RETROFLEX_HOOK 3TESH_DIGRAPH 3T_WITH_RETROFLEX_HOOK 3V_WITH_RIGHT+1 @107B2
3CAPITAL_Y 2GLOTTAL_STOP_WITH_STROKE 2REVERSED+4 2BILABIAL_CLICK 2DENTAL+1 2LATERAL+1 2ALVEOLAR+1
2RETROFLEX_CLICK_WITH_RETROFLEX_HOOK 2SMALL_S_WITH_CURL @10800 0CYPRIOT_SYLLABLE_A 2E 2I 2O 2U 2JA
@10808 2JO @1080A 2KA 2KE 2KI 2KO 2KU 2LA 2LE 2LI 2LO 2LU 2MA 2ME 2MI 2MO 2MU 2NA 2NE 2NI 2NO 2NU
2PA 2PE 2PI 2PO 2PU 2RA 2RE 2RI 2RO 2RU 2SA 2SE 2SI 2SO 2SU 2TA 2TE 2TI 2TO 2TU 2WA 2WE 2WI 2WO
@10837 2XA 2XE @1083C 2ZA @1083F 2ZO 0IMPERIAL_ARAMAIC_LETTER_ALEPH 3BETH 3GIMEL 3DALETH 3HE 3WAW
3ZAYIN 3HETH 3TETH 3YODH 3KAPH 3LAMEDH 3MEM 3NUN 3SAMEKH 3AYIN 3PE 3SADHE 3QOPH 3RESH 3SHIN 3TAW
@10857 2SECTION_SIGN 2NUMBER_ONE 3TWO 3THREE 3TEN 3TWENTY 3ONE_HUNDRED 4THOUSAND 3TEN+1
0PALMYRENE_LETTER_ALEPH 2BETH 2GIMEL 2DALETH 2HE 2WAW 2ZAYIN 2HETH 2TETH 2YODH 2KAPH 2LAMEDH 2MEM
2FINAL_NUN 2+1 2SAMEKH 2AYIN 2PE 2SADHE 2QOPH 2RESH 2SHIN 2TAW 1LEFT-POINTING_FLEURON
1RIGHT-POINTING+1 1NUMBER_ONE 2TWO 2THREE 2FOUR 2FIVE 2TEN 2TWENTY 0NABATAEAN_LETTER_FINAL_ALEPH
2+1 2FINAL_BETH 2+1 2GIMEL 2DALETH 2FINAL_HE 2+1 2WAW 2ZAYIN 2HETH 2TETH 2FINAL_YODH 2+1
2FINAL_KAPH 2+1 2FINAL_LAMEDH 2+1 2FINAL_MEM 2+1 2FINAL_NUN 2+1 2SAMEKH 2AYIN 2PE 2SADHE 2QOPH
2RESH 2FINAL_SHIN 2+1 2TAW @108A7 1NUMBER_ONE 2TWO 2THREE 2FOUR 1CRUCIFORM+2 1NUMBER_FIVE 2TEN
2TWENTY 2ONE_HUNDRED @108E0 0HATRAN_LETTER_ALEPH 2BETH 2GIMEL 2DALETH-RESH 2HE 2WAW 2ZAYN 2HETH
2TETH 2YODH 2KAPH 2LAMEDH 2MEM 2NUN 2SAMEKH 2AYN 2PE 2SADHE 2QOPH @108F4 2SHIN 2TAW @108FB
1NUMBER_ONE 2FIVE 2TEN 2TWENTY 2ONE_HUNDRED 0PHOENICIAN_LETTER_ALF 2BET 2GAML 2DELT 2HE 2WAU 2ZAI
2HET 2TET 2YOD 2KAF 2LAMD 2MEM 2NUN 2SEMK 2AIN 2PE 2SADE 2QOF 2ROSH 2SHIN 2TAU 1NUMBER_ONE 2TEN
2TWENTY 2ONE_HUNDRED 2TWO 2THREE @1091F 1WORD_SEPARATOR 0LYDIAN_LETTER_A 2B 2G 2D 2E 2V 2I 2Y 2K 2L
2M 2N 2O 2R 2SS 2T 2U 2F 2Q 2S 2TT 2AN 2EN 2LY 2NN 2C @1093F 1TRIANGULAR_MARK @10980
0MEROITIC_HIEROGLYPHIC_LETTER_A 3E 3I 3O 3YA 3WA 3BA 3BA-2 3PA 3MA 3NA 3NA-2 3NE 3NE-2 3RA 3RA-2
3LA 3KHA 3HHA 3SA 3SA-2 3SE 3KA 3QA 3TA 3TA-2 3TE 3TE-2 3TO 3DA 2SYMBOL_VIDJ 3VIDJ-2
1CURSIVE_LETTER_A 3E 3I 3O 3YA 3WA 3BA 3PA 3MA 3NA 3NE 3RA 3LA 3KHA 3HHA 3SA 3ARCHAIC+1 3SE 3KA 3QA
3TA 3TE 3TO 3DA @109BC 2FRACTION_ELEVEN_TWELFTHS 3ONE_HALF 2LOGOGRAM_RMT 3IMN 2NUMBER_ONE 3TWO
3THREE 3FOUR 3FIVE 3SIX 3SEVEN 3EIGHT 3NINE 3TEN 3TWENTY 3THIRTY 3FORTY 3FIFTY 3SIXTY 3SEVENTY
@109D2 3ONE_HUNDRED 3TWO+1 3THREE+1 3FOUR+1 3FIVE+1 3SIX+1 3SEVEN+1 3EIGHT+1 3NINE+1 3ONE_THOUSAND
3TWO+1 3THREE+1 3FOUR+1 3FIVE+1 3SIX+1 3SEVEN+1 3EIGHT+1 3NINE+1 3TEN+1 3TWENTY+1 3THIRTY+1
3FORTY+1 3FIFTY+1 3SIXTY+1 3SEVENTY+1 3EIGHTY+1 3NINETY+1 3ONE_HUNDRED+1 3TWO+2 3THREE+2 3FOUR+2
3FIVE+2 3SIX+2 3SEVEN+2 3EIGHT+2 3NINE+2 2FRACTION_ONE_TWELFTH 3TWO_TWELFTHS 3THREE+1 3FOUR+1
3FIVE+1 3SIX+1 3SEVEN+1 3EIGHT+1 3NINE+1 3TEN+1 0KHAROSHTHI_LETTER_A 1VOWEL_SIGN_I 3U 3VOCALIC_R
@10A05 3E 3O @10A0C 2LENGTH_MARK 1SIGN_DOUBLE_RING_BELOW 2ANUSVARA 2VISARGA 1LETTER_KA 2KHA 2GA
2GHA @10A15 2CA 2CHA 2JA @10A19 2NYA 2TTA 2TTHA 2DDA 2DDHA 2NNA 2TA 2THA 2DA 2DHA 2NA 2PA 2PHA 2BA
2BHA 2MA 2YA 2RA 2LA 2VA 2SHA 2SSA 2SA 2ZA 2HA 2KKA 2TTTHA 2TTTA 2VHA @10A38 1SIGN_BAR_ABOVE 2CAUDA
2DOT_BELOW @10A3F 1VIRAMA 1DIGIT_ONE 2TWO 2THREE 2FOUR 1NUMBER_TEN 2TWENTY 2ONE_HUNDRED 3THOUSAND
1FRACTION_ONE_HALF @10A50 1PUNCTUATION_DOT 2SMALL_CIRCLE 2+1 2CRESCENT_BAR 2MANGALAM 2LOTUS 2DANDA
2DOUBLE+1 2LINES @10A60 0OLD_SOUTH_ARABIAN_LETTER_HE 4LAMEDH 4HETH 4MEM 4QOPH 4WAW 4SHIN 4RESH
4BETH 4TAW 4SAT 4KAPH 4NUN 4KHETH 4SADHE 4SAMEKH 4FE 4ALEF 4AYN 4DHADHE 4GIMEL 4DALETH 4GHAYN 4TETH
4ZAYN 4DHALETH 4YODH 4THAW 4THETH 3NUMBER_ONE 4FIFTY 3NUMERIC_INDICATOR 1NORTH_ARABIAN_LETTER_HEH
4LAM 4HAH 4MEEM 4QAF 4WAW 4ES-2 4REH 4BEH 4TEH 4ES-1 4KAF 4NOON 4KHAH 4SAD 4ES-3 4FEH 4ALEF 4AIN
4DAD 4GEEM 4DAL 4GHAIN 4TAH 4ZAIN 4THAL 4YEH 4THEH 4ZAH 3NUMBER_ONE 4TEN 4TWENTY @10AC0
0MANICHAEAN_LETTER_ALEPH 2BETH 2BHETH 2GIMEL 2GHIMEL 2DALETH 2HE 2WAW 1SIGN_UD 1LETTER_ZAYIN
2ZHAYIN 2JAYIN 2JHAYIN 2HETH 2TETH 2YODH 2KAPH 2XAPH 2KHAPH 2LAMEDH 2DHAMEDH 2THAMEDH 2MEM 2NUN
2SAMEKH 2AYIN 2AAYIN 2PE 2FE 2SADHE 2QOPH 2XOPH 2QHOPH 2RESH 2SHIN 2SSHIN 2TAW
1ABBREVIATION_MARK_ABOVE 3BELOW @10AEB 1NUMBER_ONE 2FIVE 2TEN 2TWENTY 2ONE_HUNDRED
1PUNCTUATION_STAR 2FLEURON 2DOUBLE_DOT_WITHIN_DOT 2+3 3 2TWO_DOTS 2LINE_FILLER @10B00
0AVESTAN_LETTER_A 2AA 2AO 2AAO 2AN 2AAN 2AE 2AEE 2E 2EE 2O 2OO 2I 2II 2U 2UU 2KE 2XE 2XYE 2XVE 2GE
2GGE 2GHE 2CE 2JE 2TE 2THE 2DE 2DHE 2TTE 2PE 2FE 2BE 2BHE 2NGE 2NGYE 2NGVE 2NE 2NYE 2NNE 2ME 2HME
2YYE 2YE 2VE 2RE 2LE 2SE 2ZE 2SHE 2ZHE 2SHYE 2SSHE 2HE @10B39 1ABBREVIATION_MARK
0TINY_TWO_DOTS_OVER_ONE_DOT_PUNCTUATION 0SMALL+6 0LARGE+6 1ONE_DOT_OVER_TWO_DOTS+1
1TWO_RINGS_OVER_ONE_RING+1 1ONE_RING_OVER_TWO_RINGS+1 0INSCRIPTIONAL_PARTHIAN_LETTER_ALEPH 3BETH
3GIMEL 3DALETH 3HE 3WAW 3ZAYIN 3HETH 3TETH 3YODH 3KAPH 3LAMEDH 3MEM 3NUN 3SAMEKH 3AYIN 3PE 3SADHE
3QOPH 3RESH 3SHIN 3TAW @10B58 2NUMBER_ONE 3TWO 3THREE 3FOUR 3TEN 3TWENTY 3ONE_HUNDRED 4THOUSAND
1PAHLAVI_LETTER_ALEPH 3BETH 3GIMEL 3DALETH 3HE 3WAW-AYIN-RESH 3ZAYIN 3HETH 3TETH 3YODH 3KAPH
3LAMEDH 3MEM-QOPH 3NUN 3SAMEKH 3PE 3SADHE 3SHIN 3TAW @10B78 2NUMBER_ONE 3TWO 3THREE 3FOUR 3TEN
3TWENTY 3ONE_HUNDRED 4THOUSAND 0PSALTER_PAHLAVI_LETTER_ALEPH 3BETH 3GIMEL 3DALETH 3HE
3WAW-AYIN-RESH 3ZAYIN 3HETH 3YODH 3KAPH 3LAMEDH 3MEM-QOPH 3NUN 3SAMEKH 3PE 3SADHE 3SHIN 3TAW @10B99
2SECTION_MARK 2TURNED+2 2FOUR_DOTS_WITH_CROSS 5DOT @10BA9 2NUMBER_ONE 3TWO 3THREE 3FOUR 3TEN
3TWENTY 3ONE_HUNDRED @10C00 0OLD_TURKIC_LETTER_ORKHON_A 3YENISEI+1 4AE 3ORKHON_I 3YENISEI+1 4E
3ORKHON_O 4OE 3YENISEI+1 3ORKHON_AB 3YENISEI+1 3ORKHON_AEB 3YENISEI+1 3ORKHON_AG 3YENISEI+1
3ORKHON_AEG 3YENISEI+1 3ORKHON_AD 3YENISEI+1 3ORKHON_AED 4EZ 3YENISEI+1 3ORKHON_AY 3YENISEI+1
3ORKHON_AEY 3YENISEI+1 3ORKHON_AEK 3YENISEI+1 3ORKHON_OEK 3YENISEI+1 3ORKHON_AL 3YENISEI+1
3ORKHON_AEL 4ELT 4EM 4AN 4AEN 3YENISEI+1 3ORKHON_ENT 3YENISEI+1 3ORKHON_ENC 3YENISEI+1 3ORKHON_ENY
3YENISEI+1 4ANG 3ORKHON_ENG 3YENISEI_AENG 3ORKHON_EP 4OP 4IC 4EC 3YENISEI+1 3ORKHON_AQ 3YENISEI+1
3ORKHON_IQ 3YENISEI+1 3ORKHON_OQ 3YENISEI+1 3ORKHON_AR 3YENISEI+1 3ORKHON_AER 4AS 4AES 4ASH
3YENISEI+1 3ORKHON_ESH 3YENISEI+1 3ORKHON_AT 3YENISEI+1 3ORKHON_AET 3YENISEI+1 3ORKHON_OT 4BASH
@10C80 1HUNGARIAN_CAPITAL_LETTER_A 4AA 4EB 4AMB 4EC 4ENC 4ECS 4ED 4AND 4E 4CLOSE+1 4EE 4EF 4EG 4EGY
4EH 4I 4II 4EJ 4EK 4AK 4UNK 4EL 4ELY 4EM 4EN 4ENY 4O 4OO 4NIKOLSBURG_OE 4RUDIMENTA+1 4OEE 4EP 4EMP
4ER 4SHORT+1 4ES 4ESZ 4ET 4ENT 4ETY 4ECH 4U 4UU 4NIKOLSBURG_UE 4RUDIMENTA+1 4EV 4EZ 4EZS
4ENT-SHAPED_SIGN 4US @10CC0 2SMALL_LETTER_A 4AA 4EB 4AMB 4EC 4ENC 4ECS 4ED 4AND 4E 4CLOSE+1 4EE 4EF
4EG 4EGY 4EH 4I 4II 4EJ 4EK 4AK 4UNK 4EL 4ELY 4EM 4EN 4ENY 4O 4OO 4NIKOLSBURG_OE 4RUDIMENTA+1 4OEE
4EP 4EMP 4ER 4SHORT+1 4ES 4ESZ 4ET 4ENT 4ETY 4ECH 4U 4UU 4NIKOLSBURG_UE 4RUDIMENTA+1 4EV 4EZ 4EZS
4ENT-SHAPED_SIGN 4US @10CFA 2NUMBER_ONE 3FIVE 3TEN 3FIFTY 3ONE_HUNDRED 4THOUSAND
0HANIFI_ROHINGYA_LETTER_A 3BA 3PA 3TA 3TTA 3JA 3CA 3HA 3KHA 3FA 3DA 3DDA 3RA 3RRA 3ZA 3SA 3SHA 3KA
3GA 3LA 3MA 3NA 3WA 3KINNA+1 3YA 3KINNA+1 3NGA 3NYA 3VA 2VOWEL_A 3I 3U 3E 3O 2MARK_SAKIN 3NA_KHONNA
2SIGN_HARBAHAY 3TAHALA 3TANA 3TASSI @10D30 2DIGIT_ZERO 3ONE 3TWO 3THREE 3FOUR 3FIVE 3SIX 3SEVEN
3EIGHT 3NINE @10E60 0RUMI_DIGIT_ONE 2TWO 2THREE 2FOUR 2FIVE 2SIX 2SEVEN 2EIGHT 2NINE 1NUMBER_TEN
2TWENTY 2THIRTY 2FORTY 2FIFTY 2SIXTY 2SEVENTY 2EIGHTY 2NINETY 2ONE_HUNDRED 2TWO+1 2THREE+1 2FOUR+1
2FIVE+1 2SIX+1 2SEVEN+1 2EIGHT+1 2NINE+1 1FRACTION_ONE_HALF 3QUARTER 3THIRD 2TWO_THIRDS @10E80
0YEZIDI_LETTER_ELIF 2BE 2PE 2PHE 2THE 2SE 2CIM 2CHIM 2CHHIM 2HHA 2XA 2DAL 2ZAL 2RA 2RHA 2ZA 2JA
2SIN 2SHIN 2SAD 2DAD 2TA 2ZE 2EYN 2XHEYN 2FA 2VA 3ALTERNATE_FORM 2QAF 2KAF 2KHAF 2GAF 2LAM 2MIM
2NUN 2UM 2WAW 2OW 2EW 2HAY 2YOT 2ET @10EAB 1COMBINING_HAMZA_MARK 2MADDA+1 1HYPHENATION+1 @10EB0
1LETTER_LAM_WITH_DOT_ABOVE 2YOT_WITH_CIRCUMFLEX+1 @10F00 0OLD_SOGDIAN_LETTER_ALEPH 3FINAL+1 3BETH
3FINAL+1 3GIMEL 3HE 3FINAL+1 3WAW 3ZAYIN 3HETH 3YODH 3KAPH 3LAMEDH 3MEM 3NUN 3FINAL+1
5WITH_VERTICAL_TAIL 3SAMEKH 3AYIN 3ALTERNATE+1 3PE 3SADHE 3FINAL+1 5WITH_VERTICAL_TAIL
3RESH-AYIN-DALETH 3SHIN 3TAW 3FINAL+1 5WITH_VERTICAL_TAIL 2NUMBER_ONE 3TWO 3THREE 3FOUR 3FIVE 3TEN
3TWENTY 3THIRTY 3ONE_HUNDRED 2FRACTION_ONE_HALF 2LIGATURE_AYIN-DALETH @10F30 0SOGDIAN_LETTER_ALEPH
2BETH 2GIMEL 2HE 2WAW 2ZAYIN 2HETH 2YODH 2KAPH 2LAMEDH 2MEM 2NUN 2SAMEKH 2AYIN 2PE 2SADHE
2RESH-AYIN 2SHIN 2TAW 2FETH 2LESH 1INDEPENDENT_SHIN 1COMBINING_DOT_BELOW 2TWO_DOTS+1 2DOT_ABOVE
2TWO_DOTS+1 2CURVE+1 3BELOW 2HOOK_ABOVE 3BELOW 2LONG+2 2RESH+1 2STROKE+1 1NUMBER_ONE 2TEN 2TWENTY
2ONE_HUNDRED 1PUNCTUATION_TWO_VERTICAL_BARS 5WITH_DOTS 2CIRCLE_WITH_DOT 2TWO_CIRCLES_WITH_DOTS
2HALF_CIRCLE_WITH_DOT @10F70 0OLD_UYGHUR_LETTER_ALEPH 3BETH 3GIMEL-HETH 3WAW 3ZAYIN 3FINAL_HETH
3YODH 3KAPH 3LAMEDH 3MEM 3NUN 3SAMEKH 3PE 3SADHE 3RESH 3SHIN 3TAW 3LESH 2COMBINING_DOT_ABOVE 4BELOW
3TWO_DOTS_ABOVE 5BELOW 2PUNCTUATION_BAR 3TWO_BARS 4DOTS 3FOUR+1 @10FB0 0CHORASMIAN_LETTER_ALEPH
2SMALL+1 2BETH 2GIMEL 2DALETH 2HE 2WAW 2CURLED+1 2ZAYIN 2HETH 2YODH 2KAPH 2LAMEDH 2MEM 2NUN 2SAMEKH
2AYIN 2PE 2RESH 2SHIN 2TAW 1NUMBER_ONE 2TWO 2THREE 2FOUR 2TEN 2TWENTY 2ONE_HUNDRED @10FE0
0ELYMAIC_LETTER_ALEPH 2BETH 2GIMEL 2DALETH 2HE 2WAW 2ZAYIN 2HETH 2TETH 2YODH 2KAPH 2LAMEDH 2MEM
2NUN 2SAMEKH 2AYIN 2PE 2SADHE 2QOPH 2RESH 2SHIN 2TAW 1LIGATURE_ZAYIN-YODH @11000
0BRAHMI_SIGN_CANDRABINDU 2ANUSVARA 2VISARGA 2JIHVAMULIYA 2UPADHMANIYA 1LETTER_A 2AA 2I 2II 2U 2UU
2VOCALIC_R 3RR 3L 3LL 2E 2AI 2O 2AU 2KA 2KHA 2GA 2GHA 2NGA 2CA 2CHA 2JA 2JHA 2NYA 2TTA 2TTHA 2DDA
2DDHA 2NNA 2TA 2THA 2DA 2DHA 2NA 2PA 2PHA 2BA 2BHA 2MA 2YA 2RA 2LA 2VA 2SHA 2SSA 2SA 2HA 2LLA
2OLD_TAMIL_LLLA 4RRA 4NNNA 1VOWEL_SIGN_AA 3BHATTIPROLU+1 3I 3II 3U 3UU 3VOCALIC_R 4RR 4L 4LL 3E 3AI
3O 3AU 1VIRAMA 1DANDA 1DOUBLE+1 1PUNCTUATION_DOT 2DOUBLE+1 2LINE 2CRESCENT_BAR 2LOTUS @11052
1NUMBER_ONE 2TWO 2THREE 2FOUR 2FIVE 2SIX 2SEVEN 2EIGHT 2NINE 2TEN 2TWENTY 2THIRTY 2FORTY 2FIFTY
2SIXTY 2SEVENTY 2EIGHTY 2NINETY 2ONE_HUNDRED 3THOUSAND 1DIGIT_ZERO 2ONE 2TWO 2THREE 2FOUR 2FIVE
2SIX 2SEVEN 2EIGHT 2NINE 1SIGN_OLD_TAMIL_VIRAMA 1LETTER_OLD_TAMIL_SHORT_E 5O
1VOWEL_SIGN_OLD_TAMIL_SHORT_E 6O 1LETTER_OLD_TAMIL_LLA @1107F 1NUMBER_JOINER
0KAITHI_SIGN_CANDRABINDU 2ANUSVARA 2VISARGA 1LETTER_A 2AA 2I 2II 2U 2UU 2E 2AI 2O 2AU 2KA 2KHA 2GA
2GHA 2NGA 2CA 2CHA 2JA 2JHA 2NYA 2TTA 2TTHA 2DDA 2DDDHA 2DDHA 2RHA 2NNA 2TA 2THA 2DA 2DHA 2NA 2PA
2PHA 2BA 2BHA 2MA 2YA 2RA 2LA 2VA 2SHA 2SSA 2SA 2HA 1VOWEL_SIGN_AA 3I 3II 3U 3UU 3E 3AI 3O 3AU
1SIGN_VIRAMA 2NUKTA 1ABBREVIATION_SIGN 1ENUMERATION+1 1NUMBER+1 1SECTION_MARK 1DOUBLE+2 1DANDA
1DOUBLE+1 1VOWEL_SIGN_VOCALIC_R @110CD 1NUMBER_SIGN_ABOVE @110D0 0SORA_SOMPENG_LETTER_SAH 3TAH 3BAH
3CAH 3DAH 3GAH 3MAH 3NGAH 3LAH 3NAH 3VAH 3PAH 3YAH 3RAH 3HAH 3KAH 3JAH 3NYAH 3AH 3EEH 3IH 3UH 3OH
3EH 3MAE @110F0 2DIGIT_ZERO 3ONE 3TWO 3THREE 3FOUR 3FIVE 3SIX 3SEVEN 3EIGHT 3NINE @11100
0CHAKMA_SIGN_CANDRABINDU 2ANUSVARA 2VISARGA 1LETTER_AA 2I 2U 2E 2KAA 2KHAA 2GAA 2GHAA 2NGAA 2CAA
2CHAA 2JAA 2JHAA 2NYAA 2TTAA 2TTHAA 2DDAA 2DDHAA 2NNAA 2TAA 2THAA 2DAA 2DHAA 2NAA 2PAA 2PHAA 2BAA
2BHAA 2MAA 2YYAA 2YAA 2RAA 2LAA 2WAA 2SAA 2HAA 1VOWEL_SIGN_A 3I 3II 3U 3UU 3E 3AI 3O 3AU 3OI
1O_MARK 1AU+1 1VIRAMA 1MAAYYAA @11136 1DIGIT_ZERO 2ONE 2TWO 2THREE 2FOUR 2FIVE 2SIX 2SEVEN 2EIGHT
2NINE 1SECTION_MARK 1DANDA 1DOUBLE+1 1QUESTION_MARK 1LETTER_LHAA 1VOWEL_SIGN_AA 3EI 1LETTER_VAA
@11150 0MAHAJANI_LETTER_A 2I 2U 2E 2O 2KA 2KHA 2GA 2GHA 2CA 2CHA 2JA 2JHA 2NYA 2TTA 2TTHA 2DDA
2DDHA 2NNA 2TA 2THA 2DA 2DHA 2NA 2PA 2PHA 2BA 2BHA 2MA 2RA 2LA 2VA 2SA 2HA 2RRA 1SIGN_NUKTA
1ABBREVIATION_SIGN 1SECTION_MARK 1LIGATURE_SHRI @11180 0SHARADA_SIGN_CANDRABINDU 2ANUSVARA 2VISARGA
1LETTER_A 2AA 2I 2II 2U 2UU 2VOCALIC_R 3RR 3L 3LL 2E 2AI 2O 2AU 2KA 2KHA 2GA 2GHA 2NGA 2CA 2CHA 2JA
2JHA 2NYA 2TTA 2TTHA 2DDA 2DDHA 2NNA 2TA 2THA 2DA 2DHA 2NA 2PA 2PHA 2BA 2BHA 2MA 2YA 2RA 2LA 2LLA
2VA 2SHA 2SSA 2SA 2HA 1VOWEL_SIGN_AA 3I 3II 3U 3UU 3VOCALIC_R 4RR 4L 4LL 3E 3AI 3O 3AU 1SIGN_VIRAMA
2AVAGRAHA 2JIHVAMULIYA 2UPADHMANIYA 1OM 1DANDA 1DOUBLE+1 1ABBREVIATION_SIGN 1SEPARATOR 1SANDHI_MARK
1SIGN_NUKTA 1VOWEL_MODIFIER_MARK 1EXTRA_SHORT_VOWEL+1 1SUTRA+1 1VOWEL_SIGN_PRISHTHAMATRA_E
1SIGN_INVERTED_CANDRABINDU 1DIGIT_ZERO 2ONE 2TWO 2THREE 2FOUR 2FIVE 2SIX 2SEVEN 2EIGHT 2NINE 1EKAM
1SIGN_SIDDHAM 1HEADSTROKE 1CONTINUATION_SIGN 1SECTION_MARK-1 2MARK-2 @111E1
0SINHALA_ARCHAIC_DIGIT_ONE 3TWO 3THREE 3FOUR 3FIVE 3SIX 3SEVEN 3EIGHT 3NINE 2NUMBER_TEN 3TWENTY
3THIRTY 3FORTY 3FIFTY 3SIXTY 3SEVENTY 3EIGHTY 3NINETY 3ONE_HUNDRED 4THOUSAND @11200
0KHOJKI_LETTER_A 2AA 2I 2U 2E 2AI 2O 2AU 2KA 2KHA 2GA 2GGA 2GHA 2NGA 2CA 2CHA 2JA 2JJA @11213 2NYA
2TTA 2TTHA 2DDA 2DDHA 2NNA 2TA 2THA 2DA 2DDDA 2DHA 2NA 2PA 2PHA 2BA 2BBA 2BHA 2MA 2YA 2RA 2LA 2VA
2SA 2HA 2LLA 1VOWEL_SIGN_AA 3I 3II 3U 3E 3AI 3O 3AU 1SIGN_ANUSVARA 2VIRAMA 2NUKTA 2SHADDA 1DANDA
1DOUBLE+1 1WORD_SEPARATOR 1SECTION_MARK 1DOUBLE+2 1ABBREVIATION_SIGN 1SIGN_SUKUN @11280
0MULTANI_LETTER_A 2I 2U 2E 2KA 2KHA 2GA @11288 2GHA @1128A 2CA 2CHA 2JA 2JJA @1128F 2NYA 2TTA 2TTHA
2DDA 2DDDA 2DDHA 2NNA 2TA 2THA 2DA 2DHA 2NA 2PA 2PHA 2BA @1129F 2BHA 2MA 2YA 2RA 2LA 2VA 2SA 2HA
2RRA 2RHA 1SECTION_MARK @112B0 0KHUDAWADI_LETTER_A 2AA 2I 2II 2U 2UU 2E 2AI 2O 2AU 2KA 2KHA 2GA
2GGA 2GHA 2NGA 2CA 2CHA 2JA 2JJA 2JHA 2NYA 2TTA 2TTHA 2DDA 2DDDA 2RRA 2DDHA 2NNA 2TA 2THA 2DA 2DHA
2NA 2PA 2PHA 2BA 2BBA 2BHA 2MA 2YA 2RA 2LA 2VA 2SHA 2SA 2HA 1SIGN_ANUSVARA 1VOWEL_SIGN_AA 3I 3II 3U
3UU 3E 3AI 3O 3AU 1SIGN_NUKTA 2VIRAMA @112F0 1DIGIT_ZERO 2ONE 2TWO 2THREE 2FOUR 2FIVE 2SIX 2SEVEN
2EIGHT 2NINE @11300 0GRANTHA_SIGN_COMBINING_ANUSVARA_ABOVE 2CANDRABINDU 2ANUSVARA 2VISARGA @11305
1LETTER_A 2AA 2I 2II 2U 2UU 2VOCALIC_R 3L @1130F 2EE 2AI @11313 2OO 2AU 2KA 2KHA 2GA 2GHA 2NGA 2CA
2CHA 2JA 2JHA 2NYA 2TTA 2TTHA 2DDA 2DDHA 2NNA 2TA 2THA 2DA 2DHA 2NA @1132A 2PA 2PHA 2BA 2BHA 2MA
2YA 2RA @11332 2LA 2LLA @11335 2VA 2SHA 2SSA 2SA 2HA @1133B 0COMBINING_BINDU_BELOW
0GRANTHA_SIGN_NUKTA 2AVAGRAHA 1VOWEL_SIGN_AA 3I 3II 3U 3UU 3VOCALIC_R 4RR @11347 3EE 3AI @1134B 3OO
3AU 1SIGN_VIRAMA @11350 1OM @11357 1AU_LENGTH_MARK @1135D 1SIGN_PLUTA 1LETTER_VEDIC_ANUSVARA
3DOUBLE+1 2VOCALIC_RR 3LL 1VOWEL_SIGN_VOCALIC_L 4LL @11366 0COMBINING_GRANTHA_DIGIT_ZERO 3ONE 3TWO
3THREE 3FOUR 3FIVE 3SIX @11370 2LETTER_A 3KA 3NA 3VI 3PA @11400 0NEWA_LETTER_A 2AA 2I 2II 2U 2UU
2VOCALIC_R 3RR 3L 3LL 2E 2AI 2O 2AU 2KA 2KHA 2GA 2GHA 2NGA 2NGHA 2CA 2CHA 2JA 2JHA 2NYA 2NYHA 2TTA
2TTHA 2DDA 2DDHA 2NNA 2TA 2THA 2DA 2DHA 2NA 2NHA 2PA 2PHA 2BA 2BHA 2MA 2MHA 2YA 2RA 2RHA 2LA 2LHA
2WA 2SHA 2SSA 2SA 2HA 1VOWEL_SIGN_AA 3I 3II 3U 3UU 3VOCALIC_R 4RR 4L 4LL 3E 3AI 3O 3AU 1SIGN_VIRAMA
2CANDRABINDU 2ANUSVARA 2VISARGA 2NUKTA 2AVAGRAHA 2FINAL_ANUSVARA 1OM 1SIDDHI 1DANDA 1DOUBLE+1
1COMMA 1GAP_FILLER 1ABBREVIATION_SIGN 1DIGIT_ZERO 2ONE 2TWO 2THREE 2FOUR 2FIVE 2SIX 2SEVEN 2EIGHT
2NINE 1DOUBLE_COMMA 1PLACEHOLDER_MARK @1145D 1INSERTION_SIGN 1SANDHI_MARK 1LETTER_VEDIC_ANUSVARA
1SIGN_JIHVAMULIYA 2UPADHMANIYA @11480 0TIRHUTA_ANJI 1LETTER_A 2AA 2I 2II 2U 2UU 2VOCALIC_R 3RR 3L
3LL 2E 2AI 2O 2AU 2KA 2KHA 2GA 2GHA 2NGA 2CA 2CHA 2JA 2JHA 2NYA 2TTA 2TTHA 2DDA 2DDHA 2NNA 2TA 2THA
2DA 2DHA 2NA 2PA 2PHA 2BA 2BHA 2MA 2YA 2RA 2LA 2VA 2SHA 2SSA 2SA 2HA 1VOWEL_SIGN_AA 3I 3II 3U 3UU
3VOCALIC_R 4RR 4L 4LL 3E 3SHORT+1 3AI 3O 3SHORT+1 3AU 1SIGN_CANDRABINDU 2ANUSVARA 2VISARGA 2VIRAMA
2NUKTA 2AVAGRAHA 1GVANG 1ABBREVIATION_SIGN 1OM @114D0 1DIGIT_ZERO 2ONE 2TWO 2THREE 2FOUR 2FIVE 2SIX
2SEVEN 2EIGHT 2NINE @11580 0SIDDHAM_LETTER_A 2AA 2I 2II 2U 2UU 2VOCALIC_R 3RR 3L 3LL 2E 2AI 2O 2AU
2KA 2KHA 2GA 2GHA 2NGA 2CA 2CHA 2JA 2JHA 2NYA 2TTA 2TTHA 2DDA 2DDHA 2NNA 2TA 2THA 2DA 2DHA 2NA 2PA
2PHA 2BA 2BHA 2MA 2YA 2RA 2LA 2VA 2SHA 2SSA 2SA 2HA 1VOWEL_SIGN_AA 3I 3II 3U 3UU 3VOCALIC_R 4RR
@115B8 3E 3AI 3O 3AU 1SIGN_CANDRABINDU 2ANUSVARA 2VISARGA 2VIRAMA 2NUKTA 2SIDDHAM 1DANDA 1DOUBLE+1
1SEPARATOR_DOT 2BAR 1REPETITION_MARK-1 2MARK-2 2MARK-3 1END_OF_TEXT_MARK
1SECTION_MARK_WITH_TRIDENT_AND_U-SHAPED_ORNAMENTS 6DOTTED_CRESCENTS 4RAYS+3 7DOUBLE+1 7TRIPLE+1
3DOUBLE_RING 5WITH_RAYS 3WITH_DOUBLE_CRESCENTS 4TRIPLE+1 4QUADRUPLE+1 4SEPTUPLE+1 4CIRCLES_AND_RAYS
6TWO_ENCLOSURES 6FOUR+1 1LETTER_THREE-CIRCLE_ALTERNATE_I 2TWO-CIRCLE+2 4II 2ALTERNATE_U
1VOWEL_SIGN+2 4UU @11600 0MODI_LETTER_A 2AA 2I 2II 2U 2UU 2VOCALIC_R 3RR 3L 3LL 2E 2AI 2O 2AU 2KA
2KHA 2GA 2GHA 2NGA 2CA 2CHA 2JA 2JHA 2NYA 2TTA 2TTHA 2DDA 2DDHA 2NNA 2TA 2THA 2DA 2DHA 2NA 2PA 2PHA
2BA 2BHA 2MA 2YA 2RA 2LA 2VA 2SHA 2SSA 2SA 2HA 2LLA 1VOWEL_SIGN_AA 3I 3II 3U 3UU 3VOCALIC_R 4RR 4L
4LL 3E 3AI 3O 3AU 1SIGN_ANUSVARA 2VISARGA 2VIRAMA 2ARDHACANDRA 1DANDA 1DOUBLE+1 1ABBREVIATION_SIGN
1SIGN_HUVA @11650 1DIGIT_ZERO 2ONE 2TWO 2THREE 2FOUR 2FIVE 2SIX 2SEVEN 2EIGHT 2NINE @11660
0MONGOLIAN_BIRGA_WITH_ORNAMENT 1ROTATED_BIRGA 1DOUBLE_BIRGA_WITH_ORNAMENT 1TRIPLE+3
1BIRGA_WITH_DOUBLE+1 1ROTATED_BIRGA_WITH+1 4DOUBLE+1 1INVERTED_BIRGA 3WITH_DOUBLE_ORNAMENT
1SWIRL_BIRGA 3WITH_ORNAMENT 4DOUBLE+1 1TURNED+5 @11680 0TAKRI_LETTER_A 2AA 2I 2II 2U 2UU 2E 2AI 2O
2AU 2KA 2KHA 2GA 2GHA 2NGA 2CA 2CHA 2JA 2JHA 2NYA 2TTA 2TTHA 2DDA 2DDHA 2NNA 2TA 2THA 2DA 2DHA 2NA
2PA 2PHA 2BA 2BHA 2MA 2YA 2RA 2LA 2VA 2SHA 2SA 2HA 2RRA 1SIGN_ANUSVARA 2VISARGA 1VOWEL_SIGN_AA 3I
3II 3U 3UU 3E 3AI 3O 3AU 1SIGN_VIRAMA 2NUKTA 1LETTER_ARCHAIC_KHA 1ABBREVIATION_SIGN @116C0
1DIGIT_ZERO 2ONE 2TWO 2THREE 2FOUR 2FIVE 2SIX 2SEVEN 2EIGHT 2NINE @11700 0AHOM_LETTER_KA 2KHA 2NGA
2NA 2TA 2ALTERNATE+1 2PA 2PHA 2BA 2MA 2JA 2CHA 2THA 2RA 2LA 2SA 2NYA 2HA 2A 2DA 2DHA 2GA
2ALTERNATE+1 2GHA 2BHA 2JHA 2ALTERNATE_BA @1171D 1CONSONANT_SIGN_MEDIAL_LA 4RA 4LIGATING+1
1VOWEL_SIGN_A 3AA 3I 3II 3U 3UU 3E 3AW 3O 3AI 3AM 1SIGN_KILLER @11730 1DIGIT_ZERO 2ONE 2TWO 2THREE
2FOUR 2FIVE 2SIX 2SEVEN 2EIGHT 2NINE 1NUMBER_TEN 2TWENTY 1SIGN_SMALL_SECTION 2+1 2RULAI 1SYMBOL_VI
1LETTER_CA 2TTA 2TTHA 2DDA 2DDHA 2NNA 2LLA @11800 0DOGRA_LETTER_A 2AA 2I 2II 2U 2UU 2E 2AI 2O 2AU
2KA 2KHA 2GA 2GHA 2NGA 2CA 2CHA 2JA 2JHA 2NYA 2TTA 2TTHA 2DDA 2DDHA 2NNA 2TA 2THA 2DA 2DHA 2NA 2PA
2PHA 2BA 2BHA 2MA 2YA 2RA 2LA 2VA 2SHA 2SSA 2SA 2HA 2RRA 1VOWEL_SIGN_AA 3I 3II 3U 3UU 3VOCALIC_R
4RR 3E 3AI 3O 3AU 1SIGN_ANUSVARA 2VISARGA 2VIRAMA 2NUKTA 1ABBREVIATION_SIGN @118A0
0WARANG_CITI_CAPITAL_LETTER_NGAA 4A 4WI 4YU 4YA 4YO 4II 4UU 4E 4O 4ANG 4GA 4KO 4ENY 4YUJ 4UC 4ENN
4ODD 4TTE 4NUNG 4DA 4AT 4AM 4BU 4PU 4HIYO 4HOLO 4HORR 4HAR 4SSUU 4SII 4VIYO 2SMALL_LETTER_NGAA 4A
4WI 4YU 4YA 4YO 4II 4UU 4E 4O 4ANG 4GA 4KO 4ENY 4YUJ 4UC 4ENN 4ODD 4TTE 4NUNG 4DA 4AT 4AM 4BU 4PU
4HIYO 4HOLO 4HORR 4HAR 4SSUU 4SII 4VIYO 2DIGIT_ZERO 3ONE 3TWO 3THREE 3FOUR 3FIVE 3SIX 3SEVEN 3EIGHT
3NINE 2NUMBER_TEN 3TWENTY 3THIRTY 3FORTY 3FIFTY 3SIXTY 3SEVENTY 3EIGHTY 3NINETY @118FF 2OM
0DIVES_AKURU_LETTER_A 3AA 3I 3II 3U 3UU 3E @11909 3O @1190C 3KA 3KHA 3GA 3GHA 3NGA 3CA 3CHA 3JA
@11915 3NYA 3TTA @11918 3DDA 3DDHA 3NNA 3TA 3THA 3DA 3DHA 3NA 3PA 3PHA 3BA 3BHA 3MA 3YA 3YYA 3RA
3LA 3VA 3SHA 3SSA 3SA 3HA 3LLA 3ZA 2VOWEL_SIGN_AA 4I 4II 4U 4UU 4E @11937 4AI 4O @1193B
2SIGN_ANUSVARA 3CANDRABINDU 3HALANTA 2VIRAMA 2PREFIXED_NASAL_SIGN 2MEDIAL_YA 2INITIAL_RA 2MEDIAL+1
2SIGN_NUKTA 2DOUBLE_DANDA 2GAP_FILLER 2END_OF_TEXT_MARK @11950 2DIGIT_ZERO 3ONE 3TWO 3THREE 3FOUR
3FIVE 3SIX 3SEVEN 3EIGHT 3NINE @119A0 0NANDINAGARI_LETTER_A 2AA 2I 2II 2U 2UU 2VOCALIC_R 3RR @119AA
2E 2AI 2O 2AU 2KA 2KHA 2GA 2GHA 2NGA 2CA 2CHA 2JA 2JHA 2NYA 2TTA 2TTHA 2DDA 2DDHA 2NNA 2TA 2THA 2DA
2DHA 2NA 2PA 2PHA 2BA 2BHA 2MA 2YA 2RA 2LA 2VA 2SHA 2SSA 2SA 2HA 2LLA 2RRA 1VOWEL_SIGN_AA 3I 3II 3U
3UU 3VOCALIC_R 4RR @119DA 3E 3AI 3O 3AU 1SIGN_ANUSVARA 2VISARGA 2VIRAMA 2AVAGRAHA 2SIDDHAM
1HEADSTROKE 1VOWEL_SIGN_PRISHTHAMATRA_E @11A00 0ZANABAZAR_SQUARE_LETTER_A 2VOWEL_SIGN_I 4UE 4U 4E
4OE 4O 4AI 4AU 4REVERSED_I 3LENGTH_MARK 2LETTER_KA 3KHA 3GA 3GHA 3NGA 3CA 3CHA 3JA 3NYA 3TTA 3TTHA
3DDA 3DDHA 3NNA 3TA 3THA 3DA 3DHA 3NA 3PA 3PHA 3BA 3BHA 3MA 3TSA 3TSHA 3DZA 3DZHA 3ZHA 3ZA 3-A 3YA
3RA 3LA 3VA 3SHA 3SSA 3SA 3HA 3KSSA 2FINAL_CONSONANT_MARK 2SIGN_VIRAMA 3CANDRABINDU 4WITH_ORNAMENT
3CANDRA+2 3ANUSVARA 3VISARGA 2CLUSTER-INITIAL_LETTER_RA 2CLUSTER-FINAL_LETTER_YA 4RA 4LA 4VA
2INITIAL_HEAD_MARK 2CLOSING+2 2MARK_TSHEG 3SHAD 3DOUBLE+1 3LONG_TSHEG
2INITIAL_DOUBLE-LINED_HEAD_MARK 2CLOSING+3 2SUBJOINER @11A50 0SOYOMBO_LETTER_A 1VOWEL_SIGN_I 3UE 3U
3E 3O 3OE 3AI 3AU 3VOCALIC_R 4L 2LENGTH_MARK 1LETTER_KA 2KHA 2GA 2GHA 2NGA 2CA 2CHA 2JA 2JHA 2NYA
2TTA 2TTHA 2DDA 2DDHA 2NNA 2TA 2THA 2DA 2DHA 2NA 2PA 2PHA 2BA 2BHA 2MA 2TSA 2TSHA 2DZA 2ZHA 2ZA 2-A
2YA 2RA 2LA 2VA 2SHA 2SSA 2SA 2HA 2KSSA 1SIGN_JIHVAMULIYA 2UPADHMANIYA 1CLUSTER-INITIAL_LETTER_RA
3LA 3SHA 3SA 1FINAL_CONSONANT_SIGN_G 4K 4NG 4D 4N 4B 4M 4R 4L 4SH 4S 4-A 1SIGN_ANUSVARA 2VISARGA
1GEMINATION_MARK 1SUBJOINER 1MARK_TSHEG 2SHAD 2DOUBLE+1 2PLUTA
1HEAD_MARK_WITH_MOON_AND_SUN_AND_TRIPLE_FLAME 8+1 7 1TERMINAL_MARK-1 2MARK-2 @11AB0
0CANADIAN_SYLLABICS_NATTILIK_HI 3HII 3HO 3HOO 3HA 3HAA 3SHRI 3SHRII 3SHRO 3SHROO 3SHRA 3SHRAA 2SPE
2SPI 2SPO 2SPA 0PAU_CIN_HAU_LETTER_PA 4KA 4LA 4MA 4DA 4ZA 4VA 4NGA 4HA 4GA 4KHA 4SA 4BA 4CA 4TA
4THA 4NA 4PHA 4RA 4FA 4CHA 4A 4E 4I 4O 4U 4UA 4IA 4FINAL_P 5K 5T 5M 5N 5L 5W 5NG 5Y
3RISING_TONE_LONG 5 3SANDHI_GLOTTAL_STOP 3RISING_TONE_LONG_FINAL 5+1 3SANDHI_GLOTTAL_STOP+1
4TONE_LONG 5 5LONG_FINAL 5+1 3MID-LEVEL_TONE 3GLOTTAL_STOP_VARIANT 3MID-LEVEL_TONE_LONG_FINAL 5+1
3LOW-FALLING_TONE_LONG 5 3GLOTTAL_STOP 3LOW-FALLING_TONE_LONG_FINAL 5+1 3GLOTTAL_STOP+1 @11C00
0BHAIKSUKI_LETTER_A 2AA 2I 2II 2U 2UU 2VOCALIC_R 3RR 3L @11C0A 2E 2AI 2O 2AU 2KA 2KHA 2GA 2GHA 2NGA
2CA 2CHA 2JA 2JHA 2NYA 2TTA 2TTHA 2DDA 2DDHA 2NNA 2TA 2THA 2DA 2DHA 2NA 2PA 2PHA 2BA 2BHA 2MA 2YA
2RA 2LA 2VA 2SHA 2SSA 2SA 2HA 1VOWEL_SIGN_AA 3I 3II 3U 3UU 3VOCALIC_R 4RR 4L @11C38 3E 3AI 3O 3AU
1SIGN_CANDRABINDU 2ANUSVARA 2VISARGA 2VIRAMA 2AVAGRAHA 1DANDA 1DOUBLE+1 1WORD_SEPARATOR
1GAP_FILLER-1 2FILLER-2 @11C50 1DIGIT_ZERO 2ONE 2TWO 2THREE 2FOUR 2FIVE 2SIX 2SEVEN 2EIGHT 2NINE
1NUMBER_ONE 2TWO 2THREE 2FOUR 2FIVE 2SIX 2SEVEN 2EIGHT 2NINE 2TEN 2TWENTY 2THIRTY 2FORTY 2FIFTY
2SIXTY 2SEVENTY 2EIGHTY 2NINETY 1HUNDREDS_UNIT_MARK @11C70 0MARCHEN_HEAD+1 1MARK_SHAD 1LETTER_KA
2KHA 2GA 2NGA 2CA 2CHA 2JA 2NYA 2TA 2THA 2DA 2NA 2PA 2PHA 2BA 2MA 2TSA 2TSHA 2DZA 2WA 2ZHA 2ZA 2-A
2YA 2RA 2LA 2SHA 2SA 2HA 2A @11C92 1SUBJOINED_LETTER_KA 3KHA 3GA 3NGA 3CA 3CHA 3JA 3NYA 3TA 3THA
3DA 3NA 3PA 3PHA 3BA 3MA 3TSA 3TSHA 3DZA 3WA 3ZHA 3ZA @11CA9 3YA 3RA 3LA 3SHA 3SA 3HA 3A
1VOWEL_SIGN_AA 3I 3U 3E 3O 1SIGN_ANUSVARA 2CANDRABINDU @11D00 0MASARAM_GONDI_LETTER_A 3AA 3I 3II 3U
3UU 3E @11D08 3AI 3O @11D0B 3AU 3KA 3KHA 3GA 3GHA 3NGA 3CA 3CHA 3JA 3JHA 3NYA 3TTA 3TTHA 3DDA 3DDHA
3NNA 3TA 3THA 3DA 3DHA 3NA 3PA 3PHA 3BA 3BHA 3MA 3YA 3RA 3LA 3VA 3SHA 3SSA 3SA 3HA 3LLA 3KSSA 3JNYA
3TRA 2VOWEL_SIGN_AA 4I 4II 4U 4UU 4VOCALIC_R @11D3A 4E @11D3C 4AI 4O @11D3F 4AU 2SIGN_ANUSVARA
3VISARGA 3NUKTA 3CANDRA 3HALANTA 2VIRAMA 2REPHA 2RA-KARA @11D50 2DIGIT_ZERO 3ONE 3TWO 3THREE 3FOUR
3FIVE 3SIX 3SEVEN 3EIGHT 3NINE @11D60 0GUNJALA_GONDI_LETTER_A 3AA 3I 3II 3U 3UU @11D67 3EE 3AI
@11D6A 3OO 3AU 3YA 3VA 3BA 3BHA 3MA 3KA 3KHA 3TA 3THA 3LA 3GA 3GHA 3DA 3DHA 3NA 3CA 3CHA 3TTA 3TTHA
3LLA 3JA 3JHA 3DDA 3DDHA 3NGA 3PA 3PHA 3HA 3RA 3SA 2VOWEL_SIGN_AA 4I 4II 4U 4UU @11D90 4EE 4AI
@11D93 4OO 4AU 2SIGN_ANUSVARA 3VISARGA 2VIRAMA 2OM @11DA0 2DIGIT_ZERO 3ONE 3TWO 3THREE 3FOUR 3FIVE
3SIX 3SEVEN 3EIGHT 3NINE @11EE0 0MAKASAR_LETTER_KA 2GA 2NGA 2PA 2BA 2MA 2TA 2DA 2NA 2CA 2JA 2NYA
2YA 2RA 2LA 2VA 2SA 2A 1ANGKA 1VOWEL_SIGN_I 3U 3E 3O 1PASSIMBANG 1END_OF_SECTION @11FB0
0LISU_LETTER_YHA @11FC0 0TAMIL_FRACTION_ONE_THREE-HUNDRED-AND-TWENTIETH 3ONE-HUNDRED-AND-SIXTIETH
3EIGHTIETH 3SIXTY-FOURTH 3FORTIETH 3THIRTY-SECOND 2THREE_EIGHTIETHS 3SIXTY-FOURTHS 2ONE_TWENTIETH
3SIXTEENTH-1 3SIXTEENTH-2 3TENTH 3EIGHTH 2THREE_TWENTIETHS 3SIXTEENTHS 2ONE_FIFTH 3QUARTER 3HALF-1
3HALF-2 2THREE_QUARTERS 2DOWNSCALING_FACTOR_KIIZH 1SIGN_NEL 2CEVITU 2AAZHAAKKU 2UZHAKKU
2MUUVUZHAKKU 2KURUNI 2PATHAKKU 2MUKKURUNI 2KAACU 2PANAM 2PON 2VARAAKAN 2PAARAM 2KUZHI 2VELI
1WET_CULTIVATION_SIGN 1DRY+2 1LAND+1 1SALT_PAN+1 1TRADITIONAL_CREDIT+1 2NUMBER+1 1CURRENT+1
1AND_ODD+1 1SPENT+1 1TOTAL+1 1IN_POSSESSION+1 1STARTING_FROM+1 1SIGN_MUTHALIYA 2VAKAIYARAA @11FFF
1PUNCTUATION_END_OF_TEXT 0CUNEIFORM_SIGN_A 3TIMES_A 4BAD 4GAN2_TENU 4HA 4IGI 4LAGAR_GUNU 4MUSH 4SAG
2A2 2AB 3TIMES_ASH2 4DUN3_GUNU 4GAL 4GAN2_TENU 4HA 4IGI_GUNU 4IMIN 4LAGAB 4SHESH 4U_PLUS_U_PLUS_U
3GUNU 2AB2 3TIMES_BALAG 4GAN2_TENU 4ME_PLUS_EN 4SHA3 4TAK4 2AD 2AK 3TIMES_ERIN2 4SHITA_PLUS_GISH
2AL 3TIMES_AL 4DIM2 4GISH 4HA 4KAD3 4KI 4SHE 4USH 2ALAN 2ALEPH 2AMAR 3TIMES_SHE 2AN 3OVER_AN
3THREE_TIMES 3PLUS_NAGA_OPPOSING_AN_PLUS_NAGA 5SQUARED 2ANSHE 2APIN 2ARAD 3TIMES_KUR 2ARKAB 2ASAL2
2ASH 3ZIDA_TENU 3KABA+1 3OVER_ASH_TUG2_OVER_TUG2_TUG2_OVER_TUG2_PAP 5OVER_ASH
7CROSSING_ASH_OVER_ASH_OVER_ASH 2ASH2 2ASHGAB 2BA 2BAD 2BAG3 2BAHAR2 2BAL 3OVER_BAL 2BALAG 2BAR
2BARA2 2BI 3TIMES_A 4GAR 4IGI_GUNU 2BU 3OVER_BU_AB 5UN 3CROSSING_BU 2BULUG 3OVER_BULUG 2BUR 2BUR2
2DA 2DAG 3KISIM5_TIMES_A_PLUS_MASH 5AMAR 5BALAG 5BI 5GA 6PLUS_MASH 5GI 5GIR2 5GUD 5HA 5IR 6PLUS_LU
5KAK 5LA 5LU 6PLUS_MASH2 5LUM 5NE 5PAP_PLUS_PAP 5SI 5TAK4 5U2_PLUS_GIR2 5USH 2DAM 2DAR 2DARA3
2DARA4 2DI 2DIB 2DIM 3TIMES_SHE 2DIM2 2DIN 3KASKAL_U_GUNU_DISH 2+1 2DU 3OVER_DU 3GUNU 3SHESHIG 2DUB
3TIMES_ESH2 2DUB2 2DUG 2DUGUD 2DUH 2DUN 2DUN3 3GUNU 4GUNU 2DUN4 2DUR2 2E 3TIMES_PAP
3OVER_E_NUN_OVER_NUN 2E2 3TIMES_A_PLUS_HA_PLUS_DA 4GAR 4MI 4SAL 4SHE 4U 2EDIN 2EGIR 2EL 2EN
3TIMES_GAN2 5TENU 4ME 3CROSSING_EN 3OPPOSING+1 3SQUARED 2EREN 2ERIN2 2ESH2 2EZEN 3TIMES_A 5PLUS_LAL
7TIMES_LAL 4AN 4BAD 4DUN3_GUNU 6GUNU 4HA 5GUNU 4IGI+1 4KASKAL 5SQUARED 4KU3 4LA 4LAL_TIMES_LAL 4LI
4LU 4U2 4UD 2GA 3GUNU 2GA2 3TIMES_A_PLUS_DA_PLUS_HA 6+1 6IGI 4AB2_TENU_PLUS_TAB 4AN 4ASH
4ASH2_PLUS_GAL 4BAD 4BAR_PLUS_RA 4BUR 5PLUS_RA 4DA 4DI 4DIM_TIMES_SHE 4DUB 4EL 5PLUS_LA 4EN
5TIMES_GAN2_TENU 4+2 4GAR 4GI 4GI4 5PLUS_A 4GIR2_PLUS_SU 4HA_PLUS_LU_PLUS_ESH2 4HAL 5PLUS_LA
4HI_PLUS_LI 4HUB2 4IGI_GUNU 4ISH_PLUS_HU_PLUS_ASH 4KAK 4KASKAL 4KID 5PLUS_LAL 4KU3_PLUS_AN 4LA
4ME_PLUS_EN 4MI 4NUN 5OVER_NUN 4PA 4SAL 4SAR 4SHE 5PLUS_TUR 4SHID 4SUM 4TAK4 4U 4UD 5PLUS_DU
3OVER_GA2 2GABA 3CROSSING_GABA 2GAD 3OVER_GAD_GAR_OVER_GAR 2GAL 3GAD_OVER_GAD_GAR_OVER_GAR 2GALAM
2GAM 2GAN 2GAN2 3TENU 3OVER_GAN2 3CROSSING+1 2GAR 2GAR3 2GASHAN 2GESHTIN 3TIMES_KUR 2GI 3TIMES_E 4U
3CROSSING_GI 2GI4 3OVER_GI4 3CROSSING+1 2GIDIM 2GIR2 3GUNU 2GIR3 3TIMES_A_PLUS_IGI 4GAN2_TENU 4IGI
4LU_PLUS+1 4PA 2GISAL 2GISH 3CROSSING_GISH 3TIMES_BAD 4TAK4 3TENU 2GU 3CROSSING_GU 2GU2 3TIMES_KAK
5TIMES_IGI_GUNU 4NUN 4SAL_PLUS_TUG2 3GUNU 2GUD 3TIMES_A_PLUS_KUR 4+1 3OVER_GUD_LUGAL 2GUL 2GUM
3TIMES_SHE 2GUR 2GUR7 2GURUN 2GURUSH 2HA 3TENU 3GUNU 2HAL 2HI 3TIMES_ASH 4ASH2 4BAD 4DISH 4GAD 4KIN
4NUN 4SHE 4U 2HU 2HUB2 3TIMES_AN 4HAL 4KASKAL 4LISH 4UD 2HUL2 2I 3A 2IB 2IDIM 3OVER_IDIM_BUR
5SQUARED 2IG 2IGI 3DIB 3RI 3OVER_IGI_SHIR_OVER_SHIR_UD_OVER_UD 3GUNU 2IL 3TIMES_GAN2_TENU 2IL2 2IM
3TIMES_TAK4 3CROSSING_IM 3OPPOSING+1 3SQUARED 2IMIN 2IN 2IR 2ISH 2KA 3TIMES_A 4AD 5PLUS_KU3 4ASH2
4BAD 4BALAG 4BAR 4BI 4ERIN2 4ESH2 4GA 4GAL 4GAN2_TENU 4GAR 5PLUS_SHA3_PLUS_A 4GI 4GIR2
4GISH_PLUS_SAR 5CROSSING_GISH 4GU 4GUR7 4IGI 4IM 4KAK 4KI 4KID 4LI 4LU 4ME 5PLUS_DU 6GI 6TE 4MI
5PLUS_NUNUZ 4NE 4NUN 4PI 4RU 4SA 4SAR 4SHA 4SHE 4SHID 4SHU 4SIG 4SUHUR 4TAR 4U 4U2 4UD
4UMUM_TIMES_PA 4USH 4ZI 2KA2 3CROSSING_KA2 2KAB 2KAD2 2KAD3 2KAD4 2KAD5 3OVER_KAD5 2KAK
3TIMES_IGI_GUNU 2KAL 3TIMES_BAD 3CROSSING_KAL 2KAM2 2KAM4 2KASKAL 3LAGAB_TIMES_U_OVER_LAGAB_TIMES_U
3OVER_KASKAL+7 2KESH2 2KI 3TIMES_BAD 4U 4UD 2KID 2KIN 2KISAL 2KISH 2KISIM5 3OVER_KISIM5 2KU
3OVER_HI_TIMES_ASH2_KU_OVER_HI_TIMES_ASH2 2KU3 2KU4 3VARIANT_FORM 2KU7 2KUL 3GUNU 2KUN 2KUR
3OPPOSING_KUR 2KUSHU2 2KWU318 2LA 2LAGAB 3TIMES_A 5PLUS_DA_PLUS_HA 6GAR 6LAL 4AL 4AN 4ASH_ZIDA_TENU
4BAD 4BI 4DAR 4EN 4GA 4GAR 4GUD 5PLUS_GUD 4HA 4HAL 4HI_TIMES_NUN 4IGI_GUNU 4IM 5PLUS_HA 6LU 4KI
4KIN 4KU3 4KUL 5PLUS_HI_PLUS_A 4LAGAB 4LISH 4LU 4LUL 4ME 5PLUS_EN 4MUSH 4NE 4SHE_PLUS_SUM
4SHITA_PLUS_GISH_PLUS_ERIN2 7TENU 4SHU2 5PLUS_SHU2 4SUM 4TAG 4TAK4 4TE_PLUS_A_PLUS_SU_PLUS_NA 4U
5PLUS_A 6U_PLUS_U 4U2_PLUS_ASH 4UD 4USH 3SQUARED 2LAGAR 3TIMES_SHE 5PLUS_SUM 3GUNU
4OVER_LAGAR_GUNU_SHE 2LAHSHU 2LAL 3TIMES_LAL 2LAM 3TIMES_KUR 5PLUS_RU 2LI 2LIL 2LIMMU2 2LISH 2LU
3TIMES_BAD 2LU2 3TIMES_AL 4BAD 4ESH2 5TENU 4GAN2+1 4HI_TIMES_BAD 4IM 4KAD2 4KAD3 5PLUS_ASH 4KI
4LA_PLUS_ASH 4LAGAB 4ME_PLUS_EN 4NE 4NU 4SI_PLUS_ASH 4SIK2_PLUS_BU 4TUG2 3TENU 3CROSSING_LU2
3OPPOSING+1 3SQUARED 3SHESHIG 2LU3 2LUGAL 3OVER_LUGAL 3OPPOSING+1 3SHESHIG 2LUH 2LUL 2LUM 3OVER_LUM
5GAR_OVER_GAR 2MA 3TIMES_TAK4 3GUNU 2MA2 2MAH 2MAR 2MASH 2MASH2 2ME 2MES 2MI 2MIN 2MU 3OVER_MU 2MUG
3GUNU 2MUNSUB 2MURGU2 2MUSH 3TIMES_A 4KUR 4ZA 3OVER_MUSH 5TIMES_A_PLUS_NA 3CROSSING_MUSH 2MUSH3
3TIMES_A 5PLUS_DI 4+1 3GUNU 2NA 2NA2 2NAGA 3INVERTED 3TIMES_SHU_TENU 3OPPOSING_NAGA 2NAGAR
2NAM_NUTILLU 3 2NAM2 2NE 3TIMES_A 4UD 3SHESHIG 2NI 3TIMES_E 2NI2 2NIM 3TIMES_GAN2_TENU 4GAR_PLUS+2
2NINDA2 3TIMES_AN 4ASH 5PLUS_ASH 4GUD 4ME_PLUS_GAN2_TENU 4NE 4NUN 4SHE 5PLUS_A_AN 6ASH 7PLUS_ASH
4U2+2 4USH 2NISAG 2NU 2NU11 2NUN 3LAGAR_TIMES_GAR 5MASH 5SAL 6OVER_NUN_LAGAR_TIMES_SAL 5USH 3TENU
3OVER_NUN 3CROSSING+1 5LAGAR_OVER_LAGAR 2NUNUZ 3AB2_TIMES_ASHGAB 5BI 5DUG 5GUD 5IGI_GUNU 5KAD3 5LA
5NE 5SILA3 5U2 3KISIM5_TIMES_BI 6U 2PA 2PAD 2PAN 2PAP 2PESH2 2PI 3TIMES_A 4AB 4BI 4BU 4E 4I 4IB 4U
4U2 3CROSSING_PI 2PIRIG 3TIMES_KAL 4UD 4ZA 3OPPOSING_PIRIG 2RA 2RAB 2RI 2RU 2SA 2SAG_NUTILLU 3
3TIMES_A 4DU 4DUB 4HA 4KAK 4KUR 4LUM 4MI 4NUN 4SAL 4SHID 4TAB 4U2 4UB 4UM 4UR 4USH 3OVER_SAG 3GUNU
2SAL 3LAGAB_TIMES_ASH2 2SANGA2 2SAR 2SHA 2SHA3 3TIMES_A 4BAD 4GISH 4NE 4SHU2 4TUR 4U 5PLUS_A 2SHA6
2SHAB6 2SHAR2 2SHE 3HU 3OVER_SHE_GAD_OVER_GAD_GAR_OVER_GAR 5TAB_OVER_TAB+3 2SHEG9 2SHEN 2SHESH
2SHESH2 2SHESHLAM 2SHID 3TIMES_A 4IM 2SHIM 3TIMES_A 4BAL 4BULUG 4DIN 4GAR 4IGI 5GUNU 4KUSHU2 4LUL
4MUG 4SAL 2SHINIG 2SHIR 3TENU 3OVER_SHIR_BUR_OVER_BUR 2SHITA 2SHU 3OVER_INVERTED_SHU 2SHU2 2SHUBUR
2SI 3GUNU 2SIG 2SIG4 3OVER_SIG4_SHU2 2SIK2 2SILA3 2SU 3OVER_SU 2SUD 2SUD2 2SUHUR 2SUM 2SUMASH 2SUR
2SUR9 2TA 3ASTERISK 3TIMES_HI 4MI 3GUNU 2TAB 3OVER_TAB_NI_OVER_NI_DISH_OVER_DISH 3SQUARED 2TAG
3TIMES_BI 4GUD 4SHE 4SHU 4TUG2 4UD 2TAK4 2TAR 2TE 3GUNU 2TI 3TENU 2TIL 2TIR 3TIMES_TAK4 3OVER_TIR
5GAD_OVER_GAD_GAR_OVER_GAR 2TU 2TUG2 2TUK 2TUM 2TUR 3OVER_TUR_ZA_OVER_ZA 2U 3GUD 3U_U
3OVER_U_PA_OVER_PA_GAR_OVER_GAR 5SUR_OVER_SUR 5U_REVERSED_OVER_U_REVERSED 2U2 2UB 2UD 3KUSHU2
3TIMES_BAD 4MI 4U_PLUS_U_PLUS_U 9GUNU 3+1 3SHESHIG 4TIMES_BAD 2UDUG 2UM 3TIMES_LAGAB 4ME_PLUS_DA
4SHA3 4U 2UMBIN 2UMUM 3TIMES_KASKAL 4PA 2UN 3GUNU 2UR 3CROSSING_UR 3SHESHIG 2UR2 3TIMES_A_PLUS_HA
6NA 4AL 4HA 4NUN 4U2 5PLUS_ASH 6BI 2UR4 2URI 2URI3 2URU 3TIMES_A 4ASHGAB 4BAR 4DUN 4GA 4GAL
4GAN2_TENU 4GAR 4GU 4HA 4IGI 4IM 4ISH 4KI 4LUM 4MIN 4PA 4SHE 4SIG4 4TU 4U_PLUS_GUD 4UD 4URUDA 2+1
3TIMES_U 2USH 3TIMES_A 4KU 4KUR 4TAK4 2USHX 2USH2 2USHUMX 2UTUKI 2UZ3 3TIMES_KASKAL 2UZU 2ZA 3TENU
3SQUARED_TIMES_KUR 2ZAG 2ZAMX 2ZE2 2ZI 3OVER_ZI 2ZI3 2ZIB 3KABA_TENU 2ZIG 2ZIZ2 2ZU 2ZU5 3TIMES_A
2ZUBUR 2ZUM 2KAP_ELAMITE 2AB_TIMES_NUN 2AB2_TIMES_A 2AMAR_TIMES_KUG 2DAG_KISIM5_TIMES_U2_PLUS_MASH
2DAG3 2DISH_PLUS_SHU 2DUB_TIMES_SHE 2EZEN_TIMES_GUD 4SHE 2GA2_TIMES_AN_PLUS_KAK_PLUS_A 4ASH2 2GE22
2GIG 2HUSH 2KA_TIMES_ANSHE 4ASH3 4GISH 4GUD 4HI_TIMES_ASH2 4LUM 4PA 4SHUL 4TU 4UR2 2LAGAB_TIMES_GI
2LU2_SHESHIG_TIMES_BAD 3TIMES_ESH2_PLUS_LAL 4SHU 2MESH 2MUSH3_TIMES_ZA 2NA4 2NIN 2NIN9
2NINDA2_TIMES_BAL 4GI 2NU11_ROTATED_NINETY_DEGREES 2PESH2_ASTERISK 2PIR2 2SAG_TIMES_IGI_GUNU 2TI2
2UM_TIMES_ME 2U_U @12400 1NUMERIC_SIGN_TWO_ASH 3THREE+1 3FOUR+1 3FIVE+1 3SIX+1 3SEVEN+1 3EIGHT+1
3NINE+1 3THREE_DISH 3FOUR+1 3FIVE+1 3SIX+1 3SEVEN+1 3EIGHT+1 3NINE+1 3FOUR_U 3FIVE+1 3SIX+1
3SEVEN+1 3EIGHT+1 3NINE+1 3ONE_GESH2 3TWO+1 3THREE+1 3FOUR+1 3FIVE+1 3SIX+1 3SEVEN+1 3EIGHT+1
3NINE+1 3ONE_GESHU 3TWO+1 3THREE+1 3FOUR+1 3FIVE+1 3TWO_SHAR2 3THREE+1 5VARIANT_FORM 3FOUR_SHAR2
3FIVE+1 3SIX+1 3SEVEN+1 3EIGHT+1 3NINE+1 3ONE_SHARU 3TWO+1 3THREE+1 5VARIANT_FORM 3FOUR_SHARU
3FIVE+1 3SHAR2_TIMES_GAL_PLUS_DISH 7MIN 3ONE_BURU 3TWO+1 3THREE+1 5VARIANT_FORM 3FOUR_BURU 3FIVE+1
3THREE_VARIANT_FORM_ESH16 6ESH21 3FOUR_VARIANT_FORM_LIMMU 6LIMMU4 6LIMMU_A 7B
3SIX_VARIANT_FORM_ASH9 3SEVEN_VARIANT_FORM_IMIN3 6IMIN_A 7B 3EIGHT_VARIANT_FORM_USSU 6USSU3
3NINE_VARIANT_FORM_ILIMMU 6ILIMMU3 6ILIMMU4 6ILIMMU_A 3TWO_ASH_TENU 3THREE+2 3FOUR+2 3FIVE+2 3SIX+2
3ONE_BAN2 3TWO+1 3THREE+1 3FOUR+1 5VARIANT_FORM 3FIVE_BAN2 5VARIANT_FORM 3NIGIDAMIN 3NIGIDAESH
3ONE_ESHE3 3TWO+1 3ONE_THIRD_DISH 3TWO_THIRDS+1 3FIVE_SIXTHS+1 3ONE_THIRD_VARIANT_FORM_A
3TWO_THIRDS+3 3ONE_EIGHTH_ASH 4QUARTER+1 3OLD_ASSYRIAN_ONE_SIXTH 6QUARTER 3ONE_QUARTER_GUR 4HALF+1
3ELAMITE_ONE_THIRD 4TWO_THIRDS 4FORTY 4FIFTY 3FOUR_U_VARIANT_FORM 3FIVE+3 3SIX+3 3SEVEN+3 3EIGHT+3
3NINE+3 @12470 1PUNCTUATION_SIGN_OLD_ASSYRIAN_WORD_DIVIDER 3VERTICAL_COLON 3DIAGONAL+1 4TRICOLON
4QUADCOLON @12480 1SIGN_AB_TIMES_NUN_TENU 4SHU2 2AD_TIMES_ESH2 2BAD_TIMES_DISH_TENU
2BAHAR2_TIMES_AB2 4NI 4ZA 2BU_OVER_BU_TIMES_NA2 2DA_TIMES_TAK4 2DAG_TIMES_KUR 2DIM_TIMES_IGI 4U_U_U
2DIM2_TIMES_UD 2DUG_TIMES_ANSHE 4ASH 5AT_LEFT 4DIN 4DUN 4ERIN2 4GA 4GI 4GIR2_GUNU 4GISH 4HA 4HI
4IGI_GUNU 4KASKAL 4KUR 4KUSHU2 5PLUS_KASKAL 4LAK-020 4LAM 5TIMES_KUR 4LUH_PLUS_GISH 4MASH 4MES 4MI
4NI 4PI 4SHE 4SI_GUNU 2E2_TIMES_KUR 4PAP 2ERIN2_X 2ESH2_CROSSING_ESH2 2EZEN_SHESHIG_TIMES_ASH 5HI
5IGI_GUNU 5LA 5LAL 5ME 5MES 5SU 3+2 2GA2_TIMES_BAHAR2 4DIM_GUNU 4DUG_TIMES_IGI+1 6KASKAL 4EREN 4GA
4GAR_PLUS_DI 6NE 4HA_PLUS_A 4KUSHU2_PLUS_KASKAL 4LAM 5TIMES_KUR 4LUH 4MUSH 4NE 5PLUS_E2 6GI 4SHIM
4ZIZ2 2GABA_ROTATED_NINETY_DEGREES 2GESHTIN_TIMES_U 2GISH_TIMES_GISH_CROSSING_GISH
2GU2_TIMES_IGI_GUNU 2GUD_PLUS_GISH_TIMES_TAK4 2HA_TENU_GUNU 2HI_TIMES_ASH_OVER_HI_TIMES_ASH
2KA_TIMES_BU 4KA 4U_U_U 4UR 2LAGAB_TIMES_ZU_OVER_ZU 2LAK-003 2LAK-021 2LAK-025 2LAK-030 2LAK-050
2LAK-051 2LAK-062 2LAK-079_OVER_LAK-079_GUNU 2LAK-080 2LAK-081_OVER_LAK-081 2LAK-092 2LAK-130
2LAK-142 2LAK-210 2LAK-219 2LAK-220 2LAK-225 2LAK-228 2LAK-238 2LAK-265 2LAK-266 2LAK-343 2LAK-347
2LAK-348 2LAK-383 2LAK-384 2LAK-390 2LAK-441 2LAK-449 3TIMES_GU 4IGI 4PAP_PLUS_LU3 6PAP_PLUS+1
4U2_PLUS_BA 2LAK-450 2LAK-457 2LAK-470 2LAK-483 2LAK-490 2LAK-492 2LAK-493 2LAK-495 2LAK-550
2LAK-608 2LAK-617 3TIMES_ASH 4BAD 4DUN3_GUNU_GUNU 4KU3 4LA 4TAR 4TE 4U2 4UD 4URUDA 2LAK-636
2LAK-648 3TIMES_DUB 4GA 4IGI 5GUNU 4NI 4PAP_PLUS_PAP_PLUS_LU3 4SHESH_PLUS_KI 4UD 4URUDA 2LAK-724
2LAK-749 2LU2_GUNU_TIMES_ASH 3TIMES_DISH 4HAL 4PAP 5PLUS_PAP_PLUS_LU3 4TAK4 2MI_PLUS_ZA7
2MUSH_OVER_MUSH_TIMES_GA 6KAK 2NINDA2_TIMES_DIM_GUNU 4GISH 4GUL 4HI 4KESH2 4LAK-050 4MASH
4PAP_PLUS_PAP 4U 5PLUS_U 4URUDA 2SAG_GUNU_TIMES_HA 3TIMES_EN 4SHE_AT_LEFT 4TAK4 2SHA6_TENU
2SHE_OVER_SHE 3PLUS_HUB2 4NAM2 4SAR 2SHU2_PLUS_DUG_TIMES_NI 4E2_TIMES_AN 2SI_TIMES_TAK4
2TAK4_PLUS_SAG 2TUM_TIMES_GAN2_TENU 4THREE_DISH 2UR2_INVERTED 3TIMES_UD 2URU_TIMES_DARA3 4LAK-668
4LU3 2ZA7 2ZU_OVER_ZU_PLUS_SAR 2ZU5_TIMES_THREE_DISH_TENU @12F90 0CYPRO-MINOAN_SIGN_CM001 2CM002
2CM004 2CM005 2CM006 2CM007 2CM008 2CM009 2CM010 2CM011 2CM012 2CM012B 2CM013 2CM015 2CM017 2CM019
2CM021 2CM023 2CM024 2CM025 2CM026 2CM027 2CM028 2CM029 2CM030 2CM033 2CM034 2CM035 2CM036 2CM037
2CM038 2CM039 2CM040 2CM041 2CM044 2CM046 2CM047 2CM049 2CM050 2CM051 2CM052 2CM053 2CM054 2CM055
2CM056 2CM058 2CM059 2CM060 2CM061 2CM062 2CM063 2CM064 2CM066 2CM067 2CM068 2CM069 2CM070 2CM071
2CM072 2CM073 2CM074 2CM075 2CM075B 2CM076 2CM078 2CM079 2CM080 2CM081 2CM082 2CM083 2CM084 2CM085
2CM086 2CM087 2CM088 2CM089 2CM090 2CM091 2CM092 2CM094 2CM095 2CM096 2CM097 2CM098 2CM099 2CM100
2CM101 2CM102 2CM103 2CM104 2CM105 2CM107 2CM108 2CM109 2CM110 2CM112 2CM114 2CM301 2CM302 @13000
0EGYPTIAN_HIEROGLYPH_A001 2A002 2A003 2A004 2A005 2A005A 2A006 2A006A 2A006B 2A007 2A008 2A009
2A010 2A011 2A012 2A013 2A014 2A014A 2A015 2A016 2A017 2A017A 2A018 2A019 2A020 2A021 2A022 2A023
2A024 2A025 2A026 2A027 2A028 2A029 2A030 2A031 2A032 2A032A 2A033 2A034 2A035 2A036 2A037 2A038
2A039 2A040 2A040A 2A041 2A042 2A042A 2A043 2A043A 2A044 2A045 2A045A 2A046 2A047 2A048 2A049 2A050
2A051 2A052 2A053 2A054 2A055 2A056 2A057 2A058 2A059 2A060 2A061 2A062 2A063 2A064 2A065 2A066
2A067 2A068 2A069 2A070 2B001 2B002 2B003 2B004 2B005 2B005A 2B006 2B007 2B008 2B009 2C001 2C002
2C002A 2C002B 2C002C 2C003 2C004 2C005 2C006 2C007 2C008 2C009 2C010 2C010A 2C011 2C012 2C013 2C014
2C015 2C016 2C017 2C018 2C019 2C020 2C021 2C022 2C023 2C024 2D001 2D002 2D003 2D004 2D005 2D006
2D007 2D008 2D008A 2D009 2D010 2D011 2D012 2D013 2D014 2D015 2D016 2D017 2D018 2D019 2D020 2D021
2D022 2D023 2D024 2D025 2D026 2D027 2D027A 2D028 2D029 2D030 2D031 2D031A 2D032 2D033 2D034 2D034A
2D035 2D036 2D037 2D038 2D039 2D040 2D041 2D042 2D043 2D044 2D045 2D046 2D046A 2D047 2D048 2D048A
2D049 2D050 2D050A 2D050B 2D050C 2D050D 2D050E 2D050F 2D050G 2D050H 2D050I 2D051 2D052 2D052A 2D053
2D054 2D054A 2D055 2D056 2D057 2D058 2D059 2D060 2D061 2D062 2D063 2D064 2D065 2D066 2D067 2D067A
2D067B 2D067C 2D067D 2D067E 2D067F 2D067G 2D067H 2E001 2E002 2E003 2E004 2E005 2E006 2E007 2E008
2E008A 2E009 2E009A 2E010 2E011 2E012 2E013 2E014 2E015 2E016 2E016A 2E017 2E017A 2E018 2E019 2E020
2E020A 2E021 2E022 2E023 2E024 2E025 2E026 2E027 2E028 2E028A 2E029 2E030 2E031 2E032 2E033 2E034
2E034A 2E036 2E037 2E038 2F001 2F001A 2F002 2F003 2F004 2F005 2F006 2F007 2F008 2F009 2F010 2F011
2F012 2F013 2F013A 2F014 2F015 2F016 2F017 2F018 2F019 2F020 2F021 2F021A 2F022 2F023 2F024 2F025
2F026 2F027 2F028 2F029 2F030 2F031 2F031A 2F032 2F033 2F034 2F035 2F036 2F037 2F037A 2F038 2F038A
2F039 2F040 2F041 2F042 2F043 2F044 2F045 2F045A 2F046 2F046A 2F047 2F047A 2F048 2F049 2F050 2F051
2F051A 2F051B 2F051C 2F052 2F053 2G001 2G002 2G003 2G004 2G005 2G006 2G006A 2G007 2G007A 2G007B
2G008 2G009 2G010 2G011 2G011A 2G012 2G013 2G014 2G015 2G016 2G017 2G018 2G019 2G020 2G020A 2G021
2G022 2G023 2G024 2G025 2G026 2G026A 2G027 2G028 2G029 2G030 2G031 2G032 2G033 2G034 2G035 2G036
2G036A 2G037 2G037A 2G038 2G039 2G040 2G041 2G042 2G043 2G043A 2G044 2G045 2G045A 2G046 2G047 2G048
2G049 2G050 2G051 2G052 2G053 2G054 2H001 2H002 2H003 2H004 2H005 2H006 2H006A 2H007 2H008 2I001
2I002 2I003 2I004 2I005 2I005A 2I006 2I007 2I008 2I009 2I009A 2I010 2I010A 2I011 2I011A 2I012 2I013
2I014 2I015 2K001 2K002 2K003 2K004 2K005 2K006 2K007 2K008 2L001 2L002 2L002A 2L003 2L004 2L005
2L006 2L006A 2L007 2L008 2M001 2M001A 2M001B 2M002 2M003 2M003A 2M004 2M005 2M006 2M007 2M008 2M009
2M010 2M010A 2M011 2M012 2M012A 2M012B 2M012C 2M012D 2M012E 2M012F 2M012G 2M012H 2M013 2M014 2M015
2M015A 2M016 2M016A 2M017 2M017A 2M018 2M019 2M020 2M021 2M022 2M022A 2M023 2M024 2M024A 2M025
2M026 2M027 2M028 2M028A 2M029 2M030 2M031 2M031A 2M032 2M033 2M033A 2M033B 2M034 2M035 2M036 2M037
2M038 2M039 2M040 2M040A 2M041 2M042 2M043 2M044 2N001 2N002 2N003 2N004 2N005 2N006 2N007 2N008
2N009 2N010 2N011 2N012 2N013 2N014 2N015 2N016 2N017 2N018 2N018A 2N018B 2N019 2N020 2N021 2N022
2N023 2N024 2N025 2N025A 2N026 2N027 2N028 2N029 2N030 2N031 2N032 2N033 2N033A 2N034 2N034A 2N035
2N035A 2N036 2N037 2N037A 2N038 2N039 2N040 2N041 2N042 2NL001 2NL002 2NL003 2NL004 2NL005 2NL005A
2NL006 2NL007 2NL008 2NL009 2NL010 2NL011 2NL012 2NL013 2NL014 2NL015 2NL016 2NL017 2NL017A 2NL018
2NL019 2NL020 2NU001 2NU002 2NU003 2NU004 2NU005 2NU006 2NU007 2NU008 2NU009 2NU010 2NU010A 2NU011
2NU011A 2NU012 2NU013 2NU014 2NU015 2NU016 2NU017 2NU018 2NU018A 2NU019 2NU020 2NU021 2NU022
2NU022A 2O001 2O001A 2O002 2O003 2O004 2O005 2O005A 2O006 2O006A 2O006B 2O006C 2O006D 2O006E 2O006F
2O007 2O008 2O009 2O010 2O010A 2O010B 2O010C 2O011 2O012 2O013 2O014 2O015 2O016 2O017 2O018 2O019
2O019A 2O020 2O020A 2O021 2O022 2O023 2O024 2O024A 2O025 2O025A 2O026 2O027 2O028 2O029 2O029A
2O030 2O030A 2O031 2O032 2O033 2O033A 2O034 2O035 2O036 2O036A 2O036B 2O036C 2O036D 2O037 2O038
2O039 2O040 2O041 2O042 2O043 2O044 2O045 2O046 2O047 2O048 2O049 2O050 2O050A 2O050B 2O051 2P001
2P001A 2P002 2P003 2P003A 2P004 2P005 2P006 2P007 2P008 2P009 2P010 2P011 2Q001 2Q002 2Q003 2Q004
2Q005 2Q006 2Q007 2R001 2R002 2R002A 2R003 2R003A 2R003B 2R004 2R005 2R006 2R007 2R008 2R009 2R010
2R010A 2R011 2R012 2R013 2R014 2R015 2R016 2R016A 2R017 2R018 2R019 2R020 2R021 2R022 2R023 2R024
2R025 2R026 2R027 2R028 2R029 2S001 2S002 2S002A 2S003 2S004 2S005 2S006 2S006A 2S007 2S008 2S009
2S010 2S011 2S012 2S013 2S014 2S014A 2S014B 2S015 2S016 2S017 2S017A 2S018 2S019 2S020 2S021 2S022
2S023 2S024 2S025 2S026 2S026A 2S026B 2S027 2S028 2S029 2S030 2S031 2S032 2S033 2S034 2S035 2S035A
2S036 2S037 2S038 2S039 2S040 2S041 2S042 2S043 2S044 2S045 2S046 2T001 2T002 2T003 2T003A 2T004
2T005 2T006 2T007 2T007A 2T008 2T008A 2T009 2T009A 2T010 2T011 2T011A 2T012 2T013 2T014 2T015 2T016
2T016A 2T017 2T018 2T019 2T020 2T021 2T022 2T023 2T024 2T025 2T026 2T027 2T028 2T029 2T030 2T031
2T032 2T032A 2T033 2T033A 2T034 2T035 2T036 2U001 2U002 2U003 2U004 2U005 2U006 2U006A 2U006B 2U007
2U008 2U009 2U010 2U011 2U012 2U013 2U014 2U015 2U016 2U017 2U018 2U019 2U020 2U021 2U022 2U023
2U023A 2U024 2U025 2U026 2U027 2U028 2U029 2U029A 2U030 2U031 2U032 2U032A 2U033 2U034 2U035 2U036
2U037 2U038 2U039 2U040 2U041 2U042 2V001 2V001A 2V001B 2V001C 2V001D 2V001E 2V001F 2V001G 2V001H
2V001I 2V002 2V002A 2V003 2V004 2V005 2V006 2V007 2V007A 2V007B 2V008 2V009 2V010 2V011 2V011A
2V011B 2V011C 2V012 2V012A 2V012B 2V013 2V014 2V015 2V016 2V017 2V018 2V019 2V020 2V020A 2V020B
2V020C 2V020D 2V020E 2V020F 2V020G 2V020H 2V020I 2V020J 2V020K 2V020L 2V021 2V022 2V023 2V023A
2V024 2V025 2V026 2V027 2V028 2V028A 2V029 2V029A 2V030 2V030A 2V031 2V031A 2V032 2V033 2V033A
2V034 2V035 2V036 2V037 2V037A 2V038 2V039 2V040 2V040A 2W001 2W002 2W003 2W003A 2W004 2W005 2W006
2W007 2W008 2W009 2W009A 2W010 2W010A 2W011 2W012 2W013 2W014 2W014A 2W015 2W016 2W017 2W017A 2W018
2W018A 2W019 2W020 2W021 2W022 2W023 2W024 2W024A 2W025 2X001 2X002 2X003 2X004 2X004A 2X004B 2X005
2X006 2X006A 2X007 2X008 2X008A 2Y001 2Y001A 2Y002 2Y003 2Y004 2Y005 2Y006 2Y007 2Y008 2Z001 2Z002
2Z002A 2Z002B 2Z002C 2Z002D 2Z003 2Z003A 2Z003B 2Z004 2Z004A 2Z005 2Z005A 2Z006 2Z007 2Z008 2Z009
2Z010 2Z011 2Z012 2Z013 2Z014 2Z015 2Z015A 2Z015B 2Z015C 2Z015D 2Z015E 2Z015F 2Z015G 2Z015H 2Z015I
2Z016 2Z016A 2Z016B 2Z016C 2Z016D 2Z016E 2Z016F 2Z016G 2Z016H 2AA001 2AA002 2AA003 2AA004 2AA005
2AA006 2AA007 2AA007A 2AA007B 2AA008 2AA009 2AA010 2AA011 2AA012 2AA013 2AA014 2AA015 2AA016 2AA017
2AA018 2AA019 2AA020 2AA021 2AA022 2AA023 2AA024 2AA025 2AA026 2AA027 2AA028 2AA029 2AA030 2AA031
2AA032 @13430 2VERTICAL_JOINER 2HORIZONTAL+1 2INSERT_AT_TOP_START 4BOTTOM+1 4TOP_END 4BOTTOM+1
2OVERLAY_MIDDLE 2BEGIN_SEGMENT 2END+1 @14400 0ANATOLIAN_HIEROGLYPH_A001 2A002 2A003 2A004 2A005
2A006 2A007 2A008 2A009 2A010 2A010A 2A011 2A012 2A013 2A014 2A015 2A016 2A017 2A018 2A019 2A020
2A021 2A022 2A023 2A024 2A025 2A026 2A026A 2A027 2A028 2A029 2A030 2A031 2A032 2A033 2A034 2A035
2A036 2A037 2A038 2A039 2A039A 2A040 2A041 2A041A 2A042 2A043 2A044 2A045 2A045A 2A046 2A046A
2A046B 2A047 2A048 2A049 2A050 2A051 2A052 2A053 2A054 2A055 2A056 2A057 2A058 2A059 2A060 2A061
2A062 2A063 2A064 2A065 2A066 2A066A 2A066B 2A066C 2A067 2A068 2A069 2A070 2A071 2A072 2A073 2A074
2A075 2A076 2A077 2A078 2A079 2A080 2A081 2A082 2A083 2A084 2A085 2A086 2A087 2A088 2A089 2A090
2A091 2A092 2A093 2A094 2A095 2A096 2A097 2A097A 2A098 2A098A 2A099 2A100 2A100A 2A101 2A101A 2A102
2A102A 2A103 2A104 2A104A 2A104B 2A104C 2A105 2A105A 2A105B 2A106 2A107 2A107A 2A107B 2A107C 2A108
2A109 2A110 2A110A 2A110B 2A111 2A112 2A113 2A114 2A115 2A115A 2A116 2A117 2A118 2A119 2A120 2A121
2A122 2A123 2A124 2A125 2A125A 2A126 2A127 2A128 2A129 2A130 2A131 2A132 2A133 2A134 2A135 2A135A
2A136 2A137 2A138 2A139 2A140 2A141 2A142 2A143 2A144 2A145 2A146 2A147 2A148 2A149 2A150 2A151
2A152 2A153 2A154 2A155 2A156 2A157 2A158 2A159 2A160 2A161 2A162 2A163 2A164 2A165 2A166 2A167
2A168 2A169 2A170 2A171 2A172 2A173 2A174 2A175 2A176 2A177 2A178 2A179 2A180 2A181 2A182 2A183
2A184 2A185 2A186 2A187 2A188 2A189 2A190 2A191 2A192 2A193 2A194 2A195 2A196 2A197 2A198 2A199
2A200 2A201 2A202 2A202A 2A202B 2A203 2A204 2A205 2A206 2A207 2A207A 2A208 2A209 2A209A 2A210 2A211
2A212 2A213 2A214 2A215 2A215A 2A216 2A216A 2A217 2A218 2A219 2A220 2A221 2A222 2A223 2A224 2A225
2A226 2A227 2A227A 2A228 2A229 2A230 2A231 2A232 2A233 2A234 2A235 2A236 2A237 2A238 2A239 2A240
2A241 2A242 2A243 2A244 2A245 2A246 2A247 2A248 2A249 2A250 2A251 2A252 2A253 2A254 2A255 2A256
2A257 2A258 2A259 2A260 2A261 2A262 2A263 2A264 2A265 2A266 2A267 2A267A 2A268 2A269 2A270 2A271
2A272 2A273 2A274 2A275 2A276 2A277 2A278 2A279 2A280 2A281 2A282 2A283 2A284 2A285 2A286 2A287
2A288 2A289 2A289A 2A290 2A291 2A292 2A293 2A294 2A294A 2A295 2A296 2A297 2A298 2A299 2A299A 2A300
2A301 2A302 2A303 2A304 2A305 2A306 2A307 2A308 2A309 2A309A 2A310 2A311 2A312 2A313 2A314 2A315
2A316 2A317 2A318 2A319 2A320 2A321 2A322 2A323 2A324 2A325 2A326 2A327 2A328 2A329 2A329A 2A330
2A331 2A332A 2A332B 2A332C 2A333 2A334 2A335 2A336 2A336A 2A336B 2A336C 2A337 2A338 2A339 2A340
2A341 2A342 2A343 2A344 2A345 2A346 2A347 2A348 2A349 2A350 2A351 2A352 2A353 2A354 2A355 2A356
2A357 2A358 2A359 2A359A 2A360 2A361 2A362 2A363 2A364 2A364A 2A365 2A366 2A367 2A368 2A368A 2A369
2A370 2A371 2A371A 2A372 2A373 2A374 2A375 2A376 2A377 2A378 2A379 2A380 2A381 2A381A 2A382
2A383_RA_OR_RI 2A383A 2A384 2A385 2A386 2A386A 2A387 2A388 2A389 2A390 2A391 2A392 2A393_EIGHT
2A394 2A395 2A396 2A397 2A398 2A399 2A400 2A401 2A402 2A403 2A404 2A405 2A406 2A407 2A408 2A409
2A410_BEGIN_LOGOGRAM_MARK 2A410A_END+2 2A411 2A412 2A413 2A414 2A415 2A416 2A417 2A418 2A419 2A420
2A421 2A422 2A423 2A424 2A425 2A426 2A427 2A428 2A429 2A430 2A431 2A432 2A433 2A434 2A435 2A436
2A437 2A438 2A439 2A440 2A441 2A442 2A443 2A444 2A445 2A446 2A447 2A448 2A449 2A450 2A450A 2A451
2A452 2A453 2A454 2A455 2A456 2A457 2A457A 2A458 2A459 2A460 2A461 2A462 2A463 2A464 2A465 2A466
2A467 2A468 2A469 2A470 2A471 2A472 2A473 2A474 2A475 2A476 2A477 2A478 2A479 2A480 2A481 2A482
2A483 2A484 2A485 2A486 2A487 2A488 2A489 2A490 2A491 2A492 2A493 2A494 2A495 2A496 2A497 2A501
2A502 2A503 2A504 2A505 2A506 2A507 2A508 2A509 2A510 2A511 2A512 2A513 2A514 2A515 2A516 2A517
2A518 2A519 2A520 2A521 2A522 2A523 2A524 2A525 2A526 2A527 2A528 2A529 2A530 @16800
0BAMUM_LETTER_PHASE-A_NGKUE_MFON 3GBIEE_FON 3PON_MFON_PIPAEMGBIEE 5PIPAEMBA 3NAA_MFON 3SHUENSHUET
3TITA_MFON 3NZA+1 3SHINDA_PA_NJI 3PON_PA_NJI_PIPAEMGBIEE 6PIPAEMBA 3MAEMBGBIEE 3TU_MAEMBA 3NGANGU
3MAEMVEUX 3MANSUAE 3MVEUAENGAM 3SEUNYAM 3NTOQPEN 3KEUKEUTNDA 3NKINDI 3SUU 3NGKUENZEUM 3LAPAQ
3LET_KUT 3NTAP_MFAA 3MAEKEUP 3PASHAE 3GHEUAERAE 3PAMSHAE 3MON_NGGEUAET 3NZUN_MEUT 3U_YUQ_NAE
3GHEUAEGHEUAE 3NTAP_NTAA 3SISA 3MGBASA 3MEUNJOMNDEUQ 3MOOMPUQ 3KAFA 3PA_LEERAEWA 3NDA+1 3PET
3MAEMKPEN 3NIKA 3PUP 3TUAEP 3LUAEP 3SONJAM 3TEUTEUWEN 3MAENYI 3KET 3NDAANGGEUAET 3KUOQ 3MOOMEUT
3SHUM 3LOMMAE 3FIRI 3ROM 3KPOQ 3SOQ 3MAP_PIEET 3SHIRAE 3NTAP 3SHOQ_NSHUT_YUM 3NYIT_MONGKEUAEQ
3PAARAE 3NKAARAE 3UNKNOWN 3NGGEN 3MAESI 3NJAM 3MBANYI 3NYET 3TEUAEN 3SOT 3PAAM 3NSHIEE 3MAEM 3NYI
3KAQ 3NSHA 3VEE 3LU 3NEN 3NAQ 3MBAQ 2PHASE-B_NSHUET 3TU_MAEMGBIEE 3SIEE 3SET_TU 3LOM_NTEUM
3MBA_MAELEE 3KIEEM 3YEURAE 3MBAARAE 3KAM 3PEESHI 3YAFU_LEERAEWA 3LAM_NSHUT_NYAM 3NTIEE_SHEUOQ
3NDU_NJAA 3GHEUGHEUAEM 3PIT 3TU_NSIEE 3SHET_NJAQ 3SHEUAEQTU 3MFON_TEUAEQ 3MBIT_MBAAKET 3NYI_NTEUM
3KEUPUQ 3GHEUGHEN 3KEUYEUX 3LAANAE 3PARUM 3VEUM 3NGKINDI_MVOP 3NGGEU_MBU 3WUAET 3SAKEUAE 3TAAM
3MEUQ 3NGGUOQ 4LARGE 3MFIYAQ 3SUE 3MBEURI 3MONTIEEN 3NYAEMAE 3PUNGAAM 3MEUT_NGGEET 3FEUX 3MBUOQ
3FEE 3KEUAEM 3MA_NJEUAENA 4NJUQA 3LET 3NGGAAM 3NSEN 3MA 3KIQ 3NGOM 2PHASE-C_NGKUE_MAEMBA 3NZA 3YUM
3WANGKUOQ 3NGGEN 3NDEUAEREE 3NGKAQ 3GHARAE 3MBEEKEET 3GBAYI 3NYIR_MKPARAQ_MEUN 3NTU_MBIT 3MBEUM
3PIRIEEN 3NDOMBU 3MBAA_CABBAGE-TREE 3KEUSHEUAEP 3GHAP 3KEUKAQ 3YU_MUOMAE 3NZEUM 3MBUE 3NSEUAEN
3MBIT 3YEUQ 3KPARAQ 3KAA 3SEUX 3NDIDA 3TAASHAE 3NJUEQ 3TITA_YUE 3SUAET 3NGGUAEN_NYAM 3VEUX
3NANSANAQ 3MA_KEUAERI 3NTAA 3NGGUON 3LAP 3MBIRIEEN 3MGBASAQ 3NTEUNGBA 3TEUTEUX 3NGGUM 3FUE 3NDEUT
3NSA 3NSHAQ 3BUNG 3VEUAEPEN 3MBERAE 3RU 3NJAEM 3LAM 3TITUAEP 3NSUOT_NGOM 3NJEEEE 3KET 3NGGU 3MAESI
3MBUAEM 3LU 3KUT 3NJAM 3NGOM 3WUP 3NGGUEET 3NSOM 3NTEN 3KUOP_NKAARAE 3NSUN 3NDAM 3MA_NSIEE 3YAA
3NDAP 3SHUEQ 3SETFON 3MBI 3MAEMBA 3MBANYI 3KEUSEUX 3MBEUX 3KEUM 3MBAA_PICKET 3YUWOQ 3NJEUX 3MIEE
3MUAE 3SHIQ 3KEN_LAW 4FATIGUE 3NGAQ 3NAQ 3LIQ 3PIN 3PEN 3TET 2PHASE-D_MBUO 3WAP 3NJI 3MFON 3NJIEE
3LIEE 3NJEUT 3NSHEE 3NGGAAMAE 3NYAM 3WUAEN 3NGKUN 3SHEE 3NGKAP 3KEUAETMEUN 3TEUT 3SHEUAE 3NJAP 3SUE
3KET 3YAEMMAE 3KUOM 3SAP 3MFEUT 3NDEUX 3MALEERI 3MEUT 3SEUAEQ 3YEN 3NJEUAEM 3KEUOT_MBUAE 3NGKEURI
3TU 3GHAA 3NGKYEE 3FEUFEUAET 3NDEE 3MGBOFUM 3LEUAEP 3NDON 3MONI 3MGBEUN 3PUUT 3MGBIEE 3MFO 3LUM
3NSIEEP 3MBAA 3KWAET 3NYET 3TEUAEN 3SOT 3YUWOQ 3KEUM 3RAEM 3TEEEE 3NGKEUAEQ 3MFEUAE 3NSIEET 3KEUP
3PIP 3PEUTAE 3NYUE 3LET 3NGGAAM 3MFIEE 3NGGWAEN 3YUOM 3PAP 3YUOP 3NDAM 3NTEUM 3SUAE 3KUN 3NGGEUX
3NGKIEE 3TUOT 3MEUN 3KUQ 3NSUM 3TEUN 3MAENJET 3NGGAP 3LEUM 3NGGUOM 3NSHUT 3NJUEQ 3GHEUAE 3KU
3REN_OLD 3TAE 3TOQ 3NYI 3RII 3LEEEE 3MEEEE 3M 3SUU 3MU 3SHII 3SHEUX 3KYEE 3NU 3SHU 3NTEE 3PEE 3NI
3SHOQ 3PUQ 3MVOP 3LOQ 3REN_MUCH 3TI 3NTUU 3MBAA_SEVEN 3SAQ 3FAA 2PHASE-E_NDAP 3TOON 3MBEUM 3LAP
3VOM 3LOON 3PAA 3SOM 3RAQ 3NSHUOP 3NDUN 3PUAE 3TAM 3NGKA 3KPEUX 3WUO 3SEE 3NGGEUAET 3PAAM 3TOO
3KUOP 3LOM 3NSHIEE 3NGOP 3MAEM 3NGKEUX 3NGOQ 3NSHUE 3RIMGBA 3NJEUX 3PEEM 3SAA 3NGGURAE 3MGBA 3GHEUX
3NGKEUAEM 3NJAEMLI 3MAP 3LOOT 3NGGEEEE 3NDIQ 3TAEN_NTEUM 3SET 3PUM 3NDAA_SOFTNESS 3NGGUAESHAE_NYAM
3YIEE 3GHEUN 3TUAE 3YEUAE 3PO 3TUMAE 3KEUAE 3SUAEN 3TEUAEQ 3VEUAE 3WEUX 3LAAM 3PU 3TAAQ 3GHAAMAE
3NGEUREUT 3SHEUAEQ 3MGBEN 3MBEE 3NZAQ 3NKOM 3GBET 3TUM 3KUET 3YAP 3NYI_CLEAVER 3YIT 3MFEUQ 3NDIAQ
3PIEEQ 3YUEQ 3LEUAEM 3FUE 3GBEUX 3NGKUP 3KET 3MAE 3NGKAAMI 3GHET 3FA 3NTUM 3PEUT 3YEUM 3NGGEUAE
3NYI_BETWEEN 3NZUQ 3POON 3MIEE 3FUET 3NAE 3MUAE 3GHEUAE 3FU_I 3MVI 3PUAQ 3NGKUM 3KUT 3PIET 3NTAP
3YEUAET 3NGGUP 3PA_PEOPLE 3FU_CALL 3FOM 3NJEE 3A 3TOQ 3O 3I 3LAQ 3PA_PLURAL 3TAA 3TAQ
3NDAA_MY_HOUSE 3SHIQ 3YEUX 3NGUAE 3YUAEN 3YOQ_SWIMMING 4COVER 3YUQ 3YUN 3KEUX 3PEUX 3NJEE_EPOCH
3PUE 3WUE 3FEE 3VEE 3LU 3MI 3REUX 3RAE 3NGUAET 3NGA 3SHO 3SHOQ 3FU_REMEDY 3NA 3PI 3LOQ 3KO 3MEN 3MA
3MAQ 3TEU 3KI 3MON 3TEN 3FAQ 3GHOM 2PHASE-F_KA 3U 3KU 3EE 3REE 3TAE 3NYI 3LA 3RII 3RIEE 3MEEEE 3TAA
3NDAA 3NJAEM 3M 3SUU 3SHII 3SI 3SEUX 3KYEE 3KET 3NUAE 3NU 3NJUAE 3YOQ 3SHU 3YA 3NSHA 3PEUX 3NTEE
3WUE 3PEE 3RU 3NI 3REUX 3KEN 3NGKWAEN 3NGGA 3SHO 3PUAE 3FOM 3WA 3LI 3LOQ 3KO 3MBEN 3REN 3MA 3MO
3MBAA 3TET 3KPA 3SAMBA 3VUEQ @16A40 0MRO_LETTER_TA 2NGI 2YO 2MIM 2BA 2DA 2A 2PHI 2KHAI 2HAO 2DAI
2CHU 2KEAAE 2OL 2MAEM 2NIN 2PA 2OO 2O 2RO 2SHI 2THEA 2EA 2WA 2E 2KO 2LAN 2LA 2HAI 2RI 2TEK @16A60
1DIGIT_ZERO 2ONE 2TWO 2THREE 2FOUR 2FIVE 2SIX 2SEVEN 2EIGHT 2NINE @16A6E 1DANDA 1DOUBLE+1
0TANGSA_LETTER_OZ 2OC 2OQ 2OX 2AZ 2AC 2AQ 2AX 2VZ 2VC 2VQ 2VX 2EZ 2EC 2EQ 2EX 2IZ 2IC 2IQ 2IX 2UZ
2UC 2UQ 2UX 2AWZ 2AWC 2AWQ 2AWX 2UIZ 2UIC 2UIQ 2UIX 2FINAL_NG 2LONG_UEX 2SHORT_UEZ 3AWX 2UEC 2UEZ
2UEQ 2UEX 2UIUZ 2UIUC 2UIUQ 2UIUX 2MZ 2MC 2MQ 2MX 2KA 2KHA 2GA 2NGA 2SA 2YA 2WA 2PA 2NYA 2PHA 2BA
2MA 2NA 2HA 2LA 2HTA 2TA 2DA 2RA 2NHA 2SHA 2CA 2TSA 2GHA 2HTTA 2THA 2XA 2FA 2DHA 2CHA 2ZA @16AC0
1DIGIT_ZERO 2ONE 2TWO 2THREE 2FOUR 2FIVE 2SIX 2SEVEN 2EIGHT 2NINE @16AD0 0BASSA_VAH_LETTER_ENNI 3KA
3SE 3FA 3MBE 3YIE 3GAH 3DHII 3KPAH 3JO 3HWAH 3WA 3ZO 3GBU 3DO 3CE 3UWU 3TO 3BA 3VU 3YEIN 3PA 3WADDA
3A 3O 3OO 3U 3EE 3E 3I @16AF0 2COMBINING_HIGH_TONE 3LOW+1 3MID+1 3LOW-MID+1 3HIGH-LOW+1 2FULL_STOP
@16B00 0PAHAWH_HMONG_VOWEL_KEEB 3KEEV 3KIB 3KIV 3KAUB 3KAUV 3KUB 3KUV 3KEB 3KEV 3KAIB 3KAIV 3KOOB
3KOOV 3KAWB 3KAWV 3KUAB 3KUAV 3KOB 3KOV 3KIAB 3KIAV 3KAB 3KAV 3KWB 3KWV 3KAAB 3KAAV 2CONSONANT_VAU
3NTSAU 3LAU 3HAU 3NLAU 3RAU 3NKAU 3QHAU 3YAU 3HLAU 3MAU 3CHAU 3NCHAU 3HNAU 3PLHAU 3NTHAU 3NAU 3AU
3XAU 3CAU 2MARK_CIM_TUB 4SO 4KES 4KHAV 4SUAM 4HOM 4TAUM 2SIGN_VOS_THOM 4TSHAB_CEEB 3CIM_CHEEM
3VOS_THIAB 4FEEM 3XYEEM_NTXIV 4RHO 4TOV 4FAIB 3VOS_SEEV 3MEEJ_SUAB 3VOS_NRUA 3IB_YAM 3XAUS
3CIM_TSOV_ROG @16B50 2DIGIT_ZERO 3ONE 3TWO 3THREE 3FOUR 3FIVE 3SIX 3SEVEN 3EIGHT 3NINE @16B5B
2NUMBER_TENS 3HUNDREDS 3TEN_THOUSANDS 3MILLIONS 3HUNDRED+1 3TEN_BILLIONS 3TRILLIONS @16B63
2SIGN_VOS_LUB 3XYOO 3HLI 3THIRD-STAGE+1 3ZWJ_THAJ 3HNUB 3NQIG 3XIAB 3NTUJ 3AV 3TXHEEJ_CEEV
3MEEJ_TSEEB 3TAU 3LOS 3MUS 3CIM_HAIS_LUS_NTOG_NTOG 4CUAM_TSHOOJ 4TXWV 5CHWV 4PUB_DAWB 4NRES_TOS
@16B7D 2CLAN_SIGN_TSHEEJ 4YEEG 4LIS 4LAUJ 4XYOOJ 4KOO 4HAWJ 4MUAS 4THOJ 4TSAB 4PHAB 4KHAB 4HAM 4VAJ
4FAJ 4YAJ 4TSWB 4KWM 4VWJ @16E40 0MEDEFAIDRIN_CAPITAL_LETTER_M 3S 3V 3W 3ATIU 3Z 3KP 3P 3T 3G 3F 3I
3K 3A 3J 3E 3B 3C 3U 3YU 3L 3Q 3HP 3NY 3X 3D 3OE 3N 3R 3O 3AI 3Y 1SMALL_LETTER_M 3S 3V 3W 3ATIU 3Z
3KP 3P 3T 3G 3F 3I 3K 3A 3J 3E 3B 3C 3U 3YU 3L 3Q 3HP 3NY 3X 3D 3OE 3N 3R 3O 3AI 3Y 1DIGIT_ZERO
2ONE 2TWO 2THREE 2FOUR 2FIVE 2SIX 2SEVEN 2EIGHT 2NINE 1NUMBER_TEN 2ELEVEN 2TWELVE 2THIRTEEN
2FOURTEEN 2FIFTEEN 2SIXTEEN 2SEVENTEEN 2EIGHTEEN 2NINETEEN 1DIGIT_ONE_ALTERNATE_FORM 2TWO+2
2THREE+2 1COMMA 1FULL_STOP 1SYMBOL_AIVA 1EXCLAMATION_OH @16F00 0MIAO_LETTER_PA 2BA 2YI_PA 2PLA 2MA
2MHA 2ARCHAIC_MA 2FA 2VA 2VFA 2TA 2DA 2YI_TTA 3TA 2TTA 2DDA 2NA 2NHA 2YI_NNA 2ARCHAIC_NA 2NNA 2NNHA
2LA 2LYA 2LHA 2LHYA 2TLHA 2DLHA 2TLHYA 2DLHYA 2KA 2GA 2YI_KA 2QA 2QGA 2NGA 2NGHA 2ARCHAIC_NGA 2HA
2XA 2GHA 2GHHA 2TSSA 2DZZA 2NYA 2NYHA 2TSHA 2DZHA 2YI_TSHA 3DZHA 2REFORMED_TSHA 2SHA 2SSA 2ZHA
2ZSHA 2TSA 2DZA 2YI_TSA 2SA 2ZA 2ZSA 2ZZA 2ZZSA 2ARCHAIC_ZZA 2ZZYA 2ZZSYA 2WA 2AH 2HHA 2BRI 2SYI
2DZYI 2TE 2TSE 2RTE @16F4F 1SIGN_CONSONANT_MODIFIER_BAR 1LETTER_NASALIZATION 1SIGN_ASPIRATION
2REFORMED_VOICING 3ASPIRATION 1VOWEL_SIGN_A 3AA 3AHH 3AN 3ANG 3O 3OO 3WO 3W 3E 3EN 3ENG 3OEY 3I 3IA
3IAN 3IANG 3IO 3IE 3II 3IU 3ING 3U 3UA 3UAN 3UANG 3UU 3UEI 3UNG 3Y 3YI 3AE 3AEE 3ERR 3ROUNDED+1 3ER
3ROUNDED+1 3AI 3EI 3AU 3OU 3N 3NG 3UOG 3YUI 3OG 3OER 3VW 3IG 3EA 3IONG 3UI @16F8F 1TONE_RIGHT
2TOP+1 2ABOVE 2BELOW 1LETTER_TONE-2 2TONE-3 2TONE-4 2TONE-5 2TONE-6 2TONE-7 2TONE-8
2REFORMED_TONE-1 3TONE-2 3TONE-4 3TONE-5 3TONE-6 3TONE-8 @16FE0 0TANGUT_ITERATION_MARK 0NUSHU+2
0OLD_CHINESE_HOOK+1 2ITERATION+1 0KHITAN_SMALL_SCRIPT_FILLER @16FF0
0VIETNAMESE_ALTERNATE_READING_MARK_CA 4NHAY @18800 0TANGUT_COMPONENT-001 1COMPONENT-002
1COMPONENT-003 1COMPONENT-004 1COMPONENT-005 1COMPONENT-006 1COMPONENT-007 1COMPONENT-008
1COMPONENT-009 1COMPONENT-010 1COMPONENT-011 1COMPONENT-012 1COMPONENT-013 1COMPONENT-014
1COMPONENT-015 1COMPONENT-016 1COMPONENT-017 1COMPONENT-018 1COMPONENT-019 1COMPONENT-020
1COMPONENT-021 1COMPONENT-022 1COMPONENT-023 1COMPONENT-024 1COMPONENT-025 1COMPONENT-026
1COMPONENT-027 1COMPONENT-028 1COMPONENT-029 1COMPONENT-030 1COMPONENT-031 1COMPONENT-032
1COMPONENT-033 1COMPONENT-034 1COMPONENT-035 1COMPONENT-036 1COMPONENT-037 1COMPONENT-038
1COMPONENT-039 1COMPONENT-040 1COMPONENT-041 1COMPONENT-042 1COMPONENT-043 1COMPONENT-044
1COMPONENT-045 1COMPONENT-046 1COMPONENT-047 1COMPONENT-048 1COMPONENT-049 1COMPONENT-050
1COMPONENT-051 1COMPONENT-052 1COMPONENT-053 1COMPONENT-054 1COMPONENT-055 1COMPONENT-056
1COMPONENT-057 1COMPONENT-058 1COMPONENT-059 1COMPONENT-060 1COMPONENT-061 1COMPONENT-062
1COMPONENT-063 1COMPONENT-064 1COMPONENT-065 1COMPONENT-066 1COMPONENT-067 1COMPONENT-068
1COMPONENT-069 1COMPONENT-070 1COMPONENT-071 1COMPONENT-072 1COMPONENT-073 1COMPONENT-074
1COMPONENT-075 1COMPONENT-076 1COMPONENT-077 1COMPONENT-078 1COMPONENT-079 1COMPONENT-080
1COMPONENT-081 1COMPONENT-082 1COMPONENT-083 1COMPONENT-084 1COMPONENT-085 1COMPONENT-086
1COMPONENT-087 1COMPONENT-088 1COMPONENT-089 1COMPONENT-090 1COMPONENT-091 1COMPONENT-092
1COMPONENT-093 1COMPONENT-094 1COMPONENT-095 1COMPONENT-096 1COMPONENT-097 1COMPONENT-098
1COMPONENT-099 1COMPONENT-100 1COMPONENT-101 1COMPONENT-102 1COMPONENT-103 1COMPONENT-104
1COMPONENT-105 1COMPONENT-106 1COMPONENT-107 1COMPONENT-108 1COMPONENT-109 1COMPONENT-110
1COMPONENT-111 1COMPONENT-112 1COMPONENT-113 1COMPONENT-114 1COMPONENT-115 1COMPONENT-116
1COMPONENT-117 1COMPONENT-118 1COMPONENT-119 1COMPONENT-120 1COMPONENT-121 1COMPONENT-122
1COMPONENT-123 1COMPONENT-124 1COMPONENT-125 1COMPONENT-126 1COMPONENT-127 1COMPONENT-128
1COMPONENT-129 1COMPONENT-130 1COMPONENT-131 1COMPONENT-132 1COMPONENT-133 1COMPONENT-134
1COMPONENT-135 1COMPONENT-136 1COMPONENT-137 1COMPONENT-138 1COMPONENT-139 1COMPONENT-140
1COMPONENT-141 1COMPONENT-142 1COMPONENT-143 1COMPONENT-144 1COMPONENT-145 1COMPONENT-146
1COMPONENT-147 1COMPONENT-148 1COMPONENT-149 1COMPONENT-150 1COMPONENT-151 1COMPONENT-152
1COMPONENT-153 1COMPONENT-154 1COMPONENT-155 1COMPONENT-156 1COMPONENT-157 1COMPONENT-158
1COMPONENT-159 1COMPONENT-160 1COMPONENT-161 1COMPONENT-162 1COMPONENT-163 1COMPONENT-164
1COMPONENT-165 1COMPONENT-166 1COMPONENT-167 1COMPONENT-168 1COMPONENT-169 1COMPONENT-170
1COMPONENT-171 1COMPONENT-172 1COMPONENT-173 1COMPONENT-174 1COMPONENT-175 1COMPONENT-176
1COMPONENT-177 1COMPONENT-178 1COMPONENT-179 1COMPONENT-180 1COMPONENT-181 1COMPONENT-182
1COMPONENT-183 1COMPONENT-184 1COMPONENT-185 1COMPONENT-186 1COMPONENT-187 1COMPONENT-188
1COMPONENT-189 1COMPONENT-190 1COMPONENT-191 1COMPONENT-192 1COMPONENT-193 1COMPONENT-194
1COMPONENT-195 1COMPONENT-196 1COMPONENT-197 1COMPONENT-198 1COMPONENT-199 1COMPONENT-200
1COMPONENT-201 1COMPONENT-202 1COMPONENT-203 1COMPONENT-204 1COMPONENT-205 1COMPONENT-206
1COMPONENT-207 1COMPONENT-208 1COMPONENT-209 1COMPONENT-210 1COMPONENT-211 1COMPONENT-212
1COMPONENT-213 1COMPONENT-214 1COMPONENT-215 1COMPONENT-216 1COMPONENT-217 1COMPONENT-218
1COMPONENT-219 1COMPONENT-220 1COMPONENT-221 1COMPONENT-222 1COMPONENT-223 1COMPONENT-224
1COMPONENT-225 1COMPONENT-226 1COMPONENT-227 1COMPONENT-228 1COMPONENT-229 1COMPONENT-230
1COMPONENT-231 1COMPONENT-232 1COMPONENT-233 1COMPONENT-234 1COMPONENT-235 1COMPONENT-236
1COMPONENT-237 1COMPONENT-238 1COMPONENT-239 1COMPONENT-240 1COMPONENT-241 1COMPONENT-242
1COMPONENT-243 1COMPONENT-244 1COMPONENT-245 1COMPONENT-246 1COMPONENT-247 1COMPONENT-248
1COMPONENT-249 1COMPONENT-250 1COMPONENT-251 1COMPONENT-252 1COMPONENT-253 1COMPONENT-254
1COMPONENT-255 1COMPONENT-256 1COMPONENT-257 1COMPONENT-258 1COMPONENT-259 1COMPONENT-260
1COMPONENT-261 1COMPONENT-262 1COMPONENT-263 1COMPONENT-264 1COMPONENT-265 1COMPONENT-266
1COMPONENT-267 1COMPONENT-268 1COMPONENT-269 1COMPONENT-270 1COMPONENT-271 1COMPONENT-272
1COMPONENT-273 1COMPONENT-274 1COMPONENT-275 1COMPONENT-276 1COMPONENT-277 1COMPONENT-278
1COMPONENT-279 1COMPONENT-280 1COMPONENT-281 1COMPONENT-282 1COMPONENT-283 1COMPONENT-284
1COMPONENT-285 1COMPONENT-286 1COMPONENT-287 1COMPONENT-288 1COMPONENT-289 1COMPONENT-290
1COMPONENT-291 1COMPONENT-292 1COMPONENT-293 1COMPONENT-294 1COMPONENT-295 1COMPONENT-296
1COMPONENT-297 1COMPONENT-298 1COMPONENT-299 1COMPONENT-300 1COMPONENT-301 1COMPONENT-302
1COMPONENT-303 1COMPONENT-304 1COMPONENT-305 1COMPONENT-306 1COMPONENT-307 1COMPONENT-308
1COMPONENT-309 1COMPONENT-310 1COMPONENT-311 1COMPONENT-312 1COMPONENT-313 1COMPONENT-314
1COMPONENT-315 1COMPONENT-316 1COMPONENT-317 1COMPONENT-318 1COMPONENT-319 1COMPONENT-320
1COMPONENT-321 1COMPONENT-322 1COMPONENT-323 1COMPONENT-324 1COMPONENT-325 1COMPONENT-326
1COMPONENT-327 1COMPONENT-328 1COMPONENT-329 1COMPONENT-330 1COMPONENT-331 1COMPONENT-332
1COMPONENT-333 1COMPONENT-334 1COMPONENT-335 1COMPONENT-336 1COMPONENT-337 1COMPONENT-338
1COMPONENT-339 1COMPONENT-340 1COMPONENT-341 1COMPONENT-342 1COMPONENT-343 1COMPONENT-344
1COMPONENT-345 1COMPONENT-346 1COMPONENT-347 1COMPONENT-348 1COMPONENT-349 1COMPONENT-350
1COMPONENT-351 1COMPONENT-352 1COMPONENT-353 1COMPONENT-354 1COMPONENT-355 1COMPONENT-356
1COMPONENT-357 1COMPONENT-358 1COMPONENT-359 1COMPONENT-360 1COMPONENT-361 1COMPONENT-362
1COMPONENT-363 1COMPONENT-364 1COMPONENT-365 1COMPONENT-366 1COMPONENT-367 1COMPONENT-368
1COMPONENT-369 1COMPONENT-370 1COMPONENT-371 1COMPONENT-372 1COMPONENT-373 1COMPONENT-374
1COMPONENT-375 1COMPONENT-376 1COMPONENT-377 1COMPONENT-378 1COMPONENT-379 1COMPONENT-380
1COMPONENT-381 1COMPONENT-382 1COMPONENT-383 1COMPONENT-384 1COMPONENT-385 1COMPONENT-386
1COMPONENT-387 1COMPONENT-388 1COMPONENT-389 1COMPONENT-390 1COMPONENT-391 1COMPONENT-392
1COMPONENT-393 1COMPONENT-394 1COMPONENT-395 1COMPONENT-396 1COMPONENT-397 1COMPONENT-398
1COMPONENT-399 1COMPONENT-400 1COMPONENT-401 1COMPONENT-402 1COMPONENT-403 1COMPONENT-404
1COMPONENT-405 1COMPONENT-406 1COMPONENT-407 1COMPONENT-408 1COMPONENT-409 1COMPONENT-410
1COMPONENT-411 1COMPONENT-412 1COMPONENT-413 1COMPONENT-414 1COMPONENT-415 1COMPONENT-416
1COMPONENT-417 1COMPONENT-418 1COMPONENT-419 1COMPONENT-420 1COMPONENT-421 1COMPONENT-422
1COMPONENT-423 1COMPONENT-424 1COMPONENT-425 1COMPONENT-426 1COMPONENT-427 1COMPONENT-428
1COMPONENT-429 1COMPONENT-430 1COMPONENT-431 1COMPONENT-432 1COMPONENT-433 1COMPONENT-434
1COMPONENT-435 1COMPONENT-436 1COMPONENT-437 1COMPONENT-438 1COMPONENT-439 1COMPONENT-440
1COMPONENT-441 1COMPONENT-442 1COMPONENT-443 1COMPONENT-444 1COMPONENT-445 1COMPONENT-446
1COMPONENT-447 1COMPONENT-448 1COMPONENT-449 1COMPONENT-450 1COMPONENT-451 1COMPONENT-452
1COMPONENT-453 1COMPONENT-454 1COMPONENT-455 1COMPONENT-456 1COMPONENT-457 1COMPONENT-458
1COMPONENT-459 1COMPONENT-460 1COMPONENT-461 1COMPONENT-462 1COMPONENT-463 1COMPONENT-464
1COMPONENT-465 1COMPONENT-466 1COMPONENT-467 1COMPONENT-468 1COMPONENT-469 1COMPONENT-470
1COMPONENT-471 1COMPONENT-472 1COMPONENT-473 1COMPONENT-474 1COMPONENT-475 1COMPONENT-476
1COMPONENT-477 1COMPONENT-478 1COMPONENT-479 1COMPONENT-480 1COMPONENT-481 1COMPONENT-482
1COMPONENT-483 1COMPONENT-484 1COMPONENT-485 1COMPONENT-486 1COMPONENT-487 1COMPONENT-488
1COMPONENT-489 1COMPONENT-490 1COMPONENT-491 1COMPONENT-492 1COMPONENT-493 1COMPONENT-494
1COMPONENT-495 1COMPONENT-496 1COMPONENT-497 1COMPONENT-498 1COMPONENT-499 1COMPONENT-500
1COMPONENT-501 1COMPONENT-502 1COMPONENT-503 1COMPONENT-504 1COMPONENT-505 1COMPONENT-506
1COMPONENT-507 1COMPONENT-508 1COMPONENT-509 1COMPONENT-510 1COMPONENT-511 1COMPONENT-512
1COMPONENT-513 1COMPONENT-514 1COMPONENT-515 1COMPONENT-516 1COMPONENT-517 1COMPONENT-518
1COMPONENT-519 1COMPONENT-520 1COMPONENT-521 1COMPONENT-522 1COMPONENT-523 1COMPONENT-524
1COMPONENT-525 1COMPONENT-526 1COMPONENT-527 1COMPONENT-528 1COMPONENT-529 1COMPONENT-530
1COMPONENT-531 1COMPONENT-532 1COMPONENT-533 1COMPONENT-534 1COMPONENT-535 1COMPONENT-536
1COMPONENT-537 1COMPONENT-538 1COMPONENT-539 1COMPONENT-540 1COMPONENT-541 1COMPONENT-542
1COMPONENT-543 1COMPONENT-544 1COMPONENT-545 1COMPONENT-546 1COMPONENT-547 1COMPONENT-548
1COMPONENT-549 1COMPONENT-550 1COMPONENT-551 1COMPONENT-552 1COMPONENT-553 1COMPONENT-554
1COMPONENT-555 1COMPONENT-556 1COMPONENT-557 1COMPONENT-558 1COMPONENT-559 1COMPONENT-560
1COMPONENT-561 1COMPONENT-562 1COMPONENT-563 1COMPONENT-564 1COMPONENT-565 1COMPONENT-566
1COMPONENT-567 1COMPONENT-568 1COMPONENT-569 1COMPONENT-570 1COMPONENT-571 1COMPONENT-572
1COMPONENT-573 1COMPONENT-574 1COMPONENT-575 1COMPONENT-576 1COMPONENT-577 1COMPONENT-578
1COMPONENT-579 1COMPONENT-580 1COMPONENT-581 1COMPONENT-582 1COMPONENT-583 1COMPONENT-584
1COMPONENT-585 1COMPONENT-586 1COMPONENT-587 1COMPONENT-588 1COMPONENT-589 1COMPONENT-590
1COMPONENT-591 1COMPONENT-592 1COMPONENT-593 1COMPONENT-594 1COMPONENT-595 1COMPONENT-596
1COMPONENT-597 1COMPONENT-598 1COMPONENT-599 1COMPONENT-600 1COMPONENT-601 1COMPONENT-602
1COMPONENT-603 1COMPONENT-604 1COMPONENT-605 1COMPONENT-606 1COMPONENT-607 1COMPONENT-608
1COMPONENT-609 1COMPONENT-610 1COMPONENT-611 1COMPONENT-612 1COMPONENT-613 1COMPONENT-614
1COMPONENT-615 1COMPONENT-616 1COMPONENT-617 1COMPONENT-618 1COMPONENT-619 1COMPONENT-620
1COMPONENT-621 1COMPONENT-622 1COMPONENT-623 1COMPONENT-624 1COMPONENT-625 1COMPONENT-626
1COMPONENT-627 1COMPONENT-628 1COMPONENT-629 1COMPONENT-630 1COMPONENT-631 1COMPONENT-632
1COMPONENT-633 1COMPONENT-634 1COMPONENT-635 1COMPONENT-636 1COMPONENT-637 1COMPONENT-638
1COMPONENT-639 1COMPONENT-640 1COMPONENT-641 1COMPONENT-642 1COMPONENT-643 1COMPONENT-644
1COMPONENT-645 1COMPONENT-646 1COMPONENT-647 1COMPONENT-648 1COMPONENT-649 1COMPONENT-650
1COMPONENT-651 1COMPONENT-652 1COMPONENT-653 1COMPONENT-654 1COMPONENT-655 1COMPONENT-656
1COMPONENT-657 1COMPONENT-658 1COMPONENT-659 1COMPONENT-660 1COMPONENT-661 1COMPONENT-662
1COMPONENT-663 1COMPONENT-664 1COMPONENT-665 1COMPONENT-666 1COMPONENT-667 1COMPONENT-668
1COMPONENT-669 1COMPONENT-670 1COMPONENT-671 1COMPONENT-672 1COMPONENT-673 1COMPONENT-674
1COMPONENT-675 1COMPONENT-676 1COMPONENT-677 1COMPONENT-678 1COMPONENT-679 1COMPONENT-680
1COMPONENT-681 1COMPONENT-682 1COMPONENT-683 1COMPONENT-684 1COMPONENT-685 1COMPONENT-686
1COMPONENT-687 1COMPONENT-688 1COMPONENT-689 1COMPONENT-690 1COMPONENT-691 1COMPONENT-692
1COMPONENT-693 1COMPONENT-694 1COMPONENT-695 1COMPONENT-696 1COMPONENT-697 1COMPONENT-698
1COMPONENT-699 1COMPONENT-700 1COMPONENT-701 1COMPONENT-702 1COMPONENT-703 1COMPONENT-704
1COMPONENT-705 1COMPONENT-706 1COMPONENT-707 1COMPONENT-708 1COMPONENT-709 1COMPONENT-710
1COMPONENT-711 1COMPONENT-712 1COMPONENT-713 1COMPONENT-714 1COMPONENT-715 1COMPONENT-716
1COMPONENT-717 1COMPONENT-718 1COMPONENT-719 1COMPONENT-720 1COMPONENT-721 1COMPONENT-722
1COMPONENT-723 1COMPONENT-724 1COMPONENT-725 1COMPONENT-726 1COMPONENT-727 1COMPONENT-728
1COMPONENT-729 1COMPONENT-730 1COMPONENT-731 1COMPONENT-732 1COMPONENT-733 1COMPONENT-734
1COMPONENT-735 1COMPONENT-736 1COMPONENT-737 1COMPONENT-738 1COMPONENT-739 1COMPONENT-740
1COMPONENT-741 1COMPONENT-742 1COMPONENT-743 1COMPONENT-744 1COMPONENT-745 1COMPONENT-746
1COMPONENT-747 1COMPONENT-748 1COMPONENT-749 1COMPONENT-750 1COMPONENT-751 1COMPONENT-752
1COMPONENT-753 1COMPONENT-754 1COMPONENT-755 1COMPONENT-756 1COMPONENT-757 1COMPONENT-758
1COMPONENT-759 1COMPONENT-760 1COMPONENT-761 1COMPONENT-762 1COMPONENT-763 1COMPONENT-764
1COMPONENT-765 1COMPONENT-766 1COMPONENT-767 1COMPONENT-768 @1AFF0 0KATAKANA_LETTER_MINNAN_TONE-2
3TONE-3 3TONE-4 3TONE-5 @1AFF5 3TONE-7 3TONE-8 3NASALIZED_TONE-1 4TONE-2 4TONE-3 4TONE-4 4TONE-5
@1AFFD 4TONE-7 4TONE-8 @1B000 2ARCHAIC_E 0HIRAGANA_LETTER_ARCHAIC_YE 0HENTAIGANA_LETTER_A-1 2A-2
2A-3 2A-WO 2I-1 2I-2 2I-3 2I-4 2U-1 2U-2 2U-3 2U-4 2U-5 2E-2 2E-3 2E-4 2E-5 2E-6 2O-1 2O-2 2O-3
2KA-1 2KA-2 2KA-3 2KA-4 2KA-5 2KA-6 2KA-7 2KA-8 2KA-9 2KA-10 2KA-11 2KA-KE 2KI-1 2KI-2 2KI-3 2KI-4
2KI-5 2KI-6 2KI-7 2KI-8 2KU-1 2KU-2 2KU-3 2KU-4 2KU-5 2KU-6 2KU-7 2KE-1 2KE-2 2KE-3 2KE-4 2KE-5
2KE-6 2KO-1 2KO-2 2KO-3 2KO-KI 2SA-1 2SA-2 2SA-3 2SA-4 2SA-5 2SA-6 2SA-7 2SA-8 2SI-1 2SI-2 2SI-3
2SI-4 2SI-5 2SI-6 2SU-1 2SU-2 2SU-3 2SU-4 2SU-5 2SU-6 2SU-7 2SU-8 2SE-1 2SE-2 2SE-3 2SE-4 2SE-5
2SO-1 2SO-2 2SO-3 2SO-4 2SO-5 2SO-6 2SO-7 2TA-1 2TA-2 2TA-3 2TA-4 2TI-1 2TI-2 2TI-3 2TI-4 2TI-5
2TI-6 2TI-7 2TU-1 2TU-2 2TU-3 2TU-4 2TU-TO 2TE-1 2TE-2 2TE-3 2TE-4 2TE-5 2TE-6 2TE-7 2TE-8 2TE-9
2TO-1 2TO-2 2TO-3 2TO-4 2TO-5 2TO-6 2TO-RA 2NA-1 2NA-2 2NA-3 2NA-4 2NA-5 2NA-6 2NA-7 2NA-8 2NA-9
2NI-1 2NI-2 2NI-3 2NI-4 2NI-5 2NI-6 2NI-7 2NI-TE 2NU-1 2NU-2 2NU-3 2NE-1 2NE-2 2NE-3 2NE-4 2NE-5
2NE-6 2NE-KO 2NO-1 2NO-2 2NO-3 2NO-4 2NO-5 2HA-1 2HA-2 2HA-3 2HA-4 2HA-5 2HA-6 2HA-7 2HA-8 2HA-9
2HA-10 2HA-11 2HI-1 2HI-2 2HI-3 2HI-4 2HI-5 2HI-6 2HI-7 2HU-1 2HU-2 2HU-3 2HE-1 2HE-2 2HE-3 2HE-4
2HE-5 2HE-6 2HE-7 2HO-1 2HO-2 2HO-3 2HO-4 2HO-5 2HO-6 2HO-7 2HO-8 2MA-1 2MA-2 2MA-3 2MA-4 2MA-5
2MA-6 2MA-7 2MI-1 2MI-2 2MI-3 2MI-4 2MI-5 2MI-6 2MI-7 2MU-1 2MU-2 2MU-3 2MU-4 2ME-1 2ME-2 2ME-MA
2MO-1 2MO-2 2MO-3 2MO-4 2MO-5 2MO-6 2YA-1 2YA-2 2YA-3 2YA-4 2YA-5 2YA-YO 2YU-1 2YU-2 2YU-3 2YU-4
2YO-1 2YO-2 2YO-3 2YO-4 2YO-5 2YO-6 2RA-1 2RA-2 2RA-3 2RA-4 2RI-1 2RI-2 2RI-3 2RI-4 2RI-5 2RI-6
2RI-7 2RU-1 2RU-2 2RU-3 2RU-4 2RU-5 2RU-6 2RE-1 2RE-2 2RE-3 2RE-4 2RO-1 2RO-2 2RO-3 2RO-4 2RO-5
2RO-6 2WA-1 2WA-2 2WA-3 2WA-4 2WA-5 2WI-1 2WI-2 2WI-3 2WI-4 2WI-5 2WE-1 2WE-2 2WE-3 2WE-4 2WO-1
2WO-2 2WO-3 2WO-4 2WO-5 2WO-6 2WO-7 2N-MU-MO-1 2N-MU-MO-2 0HIRAGANA_LETTER_ARCHAIC_WU
0KATAKANA_LETTER_ARCHAIC_YI 3YE 3WU @1B150 0HIRAGANA_LETTER_SMALL_WI 3WE 3WO @1B164
0KATAKANA_LETTER_SMALL_WI 3WE 3WO 3N @1BC00 0DUPLOYAN_LETTER_H 2X 2P 2T 2F 2K 2L 2B 2D 2V 2G 2R
2P_N 2D_S 2F_N 2K_M 2R_S 2TH 2SLOAN_DH 2+1 2KK 2SLOAN_J 2HL 2LH 2RH 2M 2N 2J 2S 2M_N 2N_M 2J+1 2S_J
2M_WITH_DOT 2N+2 2J+2 4DOTS_INSIDE_AND_ABOVE 2S_WITH_DOT 5BELOW 2M_S 2N+1 2J+1 2S+1 2M_N+1 2N_M+1
2J+2 2S_J+1 2J_S_WITH_DOT 3N 4S 2S_T 4R 3P 4R 2T_S 3R+1 2W 2WH 2W_R 2S_N 3M 2K_R_S 2G+2 2S_K 4R 2A
2SLOAN_OW 2OA 2O 2AOU 2I 2E 2IE 2SHORT_I 2UI 2EE 2SLOAN_EH 2ROMANIAN_I 2SLOAN_EE 2LONG_I 2YE 2U 2EU
2XW 2U_N 2LONG_U 2ROMANIAN+1 2UH 2SLOAN_U 2OOH 2OW 2OU 2WA 2WO 2WI 2WEI 2WOW 2NASAL_U 3O 3I 3A
2PERNIN_AN 3AM 2SLOAN_EN 3AN 3ON 2VOCALIC_M @1BC70 1AFFIX_LEFT_HORIZONTAL_SECANT 2MID+2 2RIGHT+2
2LOW_VERTICAL+1 2MID+2 2HIGH+2 2ATTACHED+1 3LEFT-TO-RIGHT+1 3TANGENT 3TAIL 3E_HOOK 3I+1 3TANGENT+1
@1BC80 2HIGH_ACUTE 3TIGHT+1 3GRAVE 3LONG+1 3DOT 3CIRCLE 3LINE 3WAVE 3VERTICAL @1BC90 2LOW_ACUTE
3TIGHT+1 3GRAVE 3LONG+1 3DOT 3CIRCLE 3LINE 3WAVE 3VERTICAL 3ARROW @1BC9C 1SIGN_O_WITH_CROSS
1THICK_LETTER_SELECTOR 1DOUBLE_MARK 1PUNCTUATION_CHINOOK_FULL_STOP 0SHORTHAND_FORMAT_LETTER_OVERLAP
2CONTINUING+1 2DOWN_STEP 2UP+1 @1CF00 0ZNAMENNY_COMBINING_MARK_GORAZDO_NIZKO_S_KRYZHEM_ON_LEFT 3+5
3TSATA+2 3GORAZDO_NIZKO+2 3+3 3SREDNE+2 3MALO_POVYSHE+2 3+3 3VYSOKO+2 3MALO_POVYSHE_S_KHOKHLOM+2
3+5 3VYSOKO+4 3GORAZDO_NIZKO_S_KRYZHEM_ON_RIGHT 3+5 3TSATA+2 3GORAZDO_NIZKO+2 3+3 3SREDNE+2
3MALO_POVYSHE+2 3+3 3VYSOKO+2 3MALO_POVYSHE_S_KHOKHLOM+2 3+5 3VYSOKO+4 3TSATA_S_KRYZHEM
3MALO_POVYSHE+2 3STRANNO_MALO_POVYSHE 3POVYSHE_S_KRYZHEM 4STRANNO 3VYSOKO_S_KRYZHEM
3MALO_POVYSHE_STRANNO 3GORAZDO_VYSOKO 3ZELO 3ON 3RAVNO 3TIKHAYA 3BORZAYA 3UDARKA 3PODVERTKA 3LOMKA
3KUPNAYA 3KACHKA 3ZEVOK 3SKOBA 3RAZSEKA 3KRYZH_ON_LEFT @1CF30 2TONAL_RANGE_MARK_MRACHNO 5SVETLO
5TRESVETLO 2MARK_ZADERZHKA 3DEMESTVENNY+1 3OTSECHKA 3PODCHASHIE 4WITH_VERTICAL_STROKE 3CHASHKA
4POLNAYA 3OBLACHKO 3SOROCHYA_NOZHKA 3TOCHKA 3DVOETOCHIE 2ATTACHING_VERTICAL_OMET 2MARK_CURVED+1
3KRYZH 2LOWER_TONAL_RANGE_INDICATOR 1PRIZNAK_MODIFIER_LEVEL-2 3LEVEL-3 3DIRECTION_FLIP 3KRYZH 3ROG
@1CF50 1NEUME_KRYUK 3TIKHY 2PARAKLIT 2DVA_V_CHELNU 2KLYUCH 2ZANOZHEK 2STOPITSA 3S_OCHKOM 2PEREVODKA
3NEPOSTOYANNAYA 2STOPITSA_WITH_SOROCHYA_NOZHKA 2CHELYUSTKA 2PALKA 2ZAPYATAYA 2GOLUBCHIK_BORZY
3TIKHY 3MRACHNY 3SVETLY 3TRESVETLY 2VRAKHIYA_PROSTAYA 3MRACHNAYA 3SVETLAYA 3TRESVETLAYA
3KLYUCHEVAYA_PROSTAYA 4MRACHNAYA 4SVETLAYA 4TRESVETLAYA 2DOUBLE_ZAPYATAYA 2REVERSED_CHELYUSTKA
2DERBITSA 2KHAMILO 2CHASHKA 2PODCHASHIE 2SKAMEYTSA_MRACHNAYA 3SVETLAYA 3TRESVETLAYA 3TIKHAYA
2DEMESTVENNY_KLYUCH 2SKAMEYTSA_KLYUCHEVAYA_SVETLAYA 3KLYUCHENEPOSTOYANNAYA 3KLYUCHEVAYA_TIKHAYA
3DVOECHELNAYA_PROSTAYA 4SVETLAYA 4NEPOSTOYANNAYA 4KLYUCHEVAYA 2SLOZHITIE 3S_ZAPYATOY 3ZAKRYTOE
3S_KRYZHEM 2KRYZH 2ROG 2FITA 2KOBYLA 2ZMEYTSA 2STATYA 3S_ZAPYATOY 4KRYZHEM 4ZAPYATOY_I+1
4KRYZHEM_I_ZAPYATOY 3ZAKRYTAYA 4S_ZAPYATOY 3S_ROGOM 4DVUMYA_ZAPYATYMI 4ZAPYATOY_I_PODCHASHIEM
2POLKULIZMY 2STATYA_NEPOSTOYANNAYA 2STRELA_PROSTAYA 3MRACHNOTIKHAYA 3KRYZHEVAYA 3POLUPOVODNAYA
3POVODNAYA 3NEPOSTOYANNAYA 3KLYUCHEPOVODNAYA 3KLYUCHENEPOSTOYANNAYA 3TIKHAYA_PUTNAYA 3DVOECHELNAYA
3DVOECHELNOKRYZHEVAYA 3DVOECHELNOPOVODNAYA 3DVOECHELNAYA_KLYUCHEVAYA 3DVOECHELNOPOVODNAYA+1
3GROMNAYA_WITH_SINGLE_ZAPYATAYA 3GROMOPOVODNAYA+3 3GROMNAYA 3GROMOPOVODNAYA 4WITH_DOUBLE_ZAPYATAYA
3GROMOKRYZHEVAYA 4POVODNAYA 2MECHIK 3POVODNY 3KLYUCHEVOY 3KLYUCHEPOVODNY 3KLYUCHENEPOSTOYANNY
2STRELA_TRYASOGLASNAYA 3TRYASOPOVODNAYA 3TRYASOSTRELNAYA 2OSOKA 3SVETLAYA 3TRESVETLAYA
3KRYUKOVAYA_SVETLAYA 3KLYUCHEVAYA+1 4NEPOSTOYANNAYA 2STRELA_KRYUKOVAYA 4POVODNAYA
4GROMNAYA_WITH_SINGLE_ZAPYATAYA 4GROMOPOVODNAYA+3 4GROMNAYA 4GROMOPOVODNAYA 5WITH_DOUBLE_ZAPYATAYA
4GROMOKRYZHEVAYA 5POVODNAYA 4TRYASKA 2KUFISMA 2OBLAKO 2DUDA 2NEMKA 2PAUK @1D000
0BYZANTINE_MUSICAL_SYMBOL_PSILI 3DASEIA 3PERISPOMENI 3OXEIA_EKFONITIKON 4DIPLI 3VAREIA_EKFONITIKON
4DIPLI 3KATHISTI 3SYRMATIKI 3PARAKLITIKI 3YPOKRISIS 4DIPLI 3KREMASTI 3APESO_EKFONITIKON 3EXO+1
3TELEIA 3KENTIMATA 3APOSTROFOS 4DIPLI 3SYNEVMA 3THITA 3OLIGON_ARCHAION 3GORGON+1 3PSILON 3CHAMILON
3VATHY 3ISON_ARCHAION 3KENTIMA+1 3KENTIMATA+1 3SAXIMATA 3PARICHON 3STAVROS_APODEXIA
3OXEIAI_ARCHAION 3VAREIAI+1 3APODERMA+1 3APOTHEMA 3KLASMA 3REVMA 3PIASMA_ARCHAION 3TINAGMA
3ANATRICHISMA 3SEISMA 3SYNAGMA_ARCHAION 4META_STAVROU 3OYRANISMA_ARCHAION 3THEMA 3LEMOI 3DYO 3TRIA
3TESSERA 3KRATIMATA 3APESO_EXO_NEO 3FTHORA_ARCHAION 3IMIFTHORA 3TROMIKON_ARCHAION 3KATAVA_TROMIKON
3PELASTON 3PSIFISTON 3KONTEVMA 3CHOREVMA_ARCHAION 3RAPISMA 3PARAKALESMA_ARCHAION 3PARAKLITIKI+1
3ICHADIN 3NANA 3PETASMA 3KONTEVMA_ALLO 3TROMIKON+1 3STRAGGISMATA 3GRONTHISMATA 3ISON_NEO 3OLIGON+1
3OXEIA+1 3PETASTI 3KOUFISMA 3PETASTOKOUFISMA 3KRATIMOKOUFISMA 3PELASTON_NEO 3KENTIMATA_NEO_ANO
3KENTIMA+2 3YPSILI 3APOSTROFOS_NEO 3APOSTROFOI_SYNDESMOS+1 3YPORROI 3KRATIMOYPORROON 3ELAFRON
3CHAMILI 3MIKRON_ISON 3VAREIA_NEO 3PIASMA+1 3PSIFISTON+1 3OMALON 3ANTIKENOMA 3LYGISMA
3PARAKLITIKI_NEO 3PARAKALESMA+1 3ETERON_PARAKALESMA 3KYLISMA 3ANTIKENOKYLISMA 3TROMIKON_NEO
3EKSTREPTON 3SYNAGMA_NEO 3SYRMA 3CHOREVMA_NEO 3EPEGERMA 3SEISMA_NEO 3XIRON_KLASMA 3TROMIKOPSIFISTON
3PSIFISTOLYGISMA 3TROMIKOLYGISMA 3TROMIKOPARAKALESMA 3PSIFISTOPARAKALESMA 3TROMIKOSYNAGMA
3PSIFISTOSYNAGMA 3GORGOSYNTHETON 3ARGOSYNTHETON 3ETERON+1 3OYRANISMA_NEO 3THEMATISMOS_ESO 4EXO
3THEMA_APLOUN 3THES_KAI_APOTHES 3KATAVASMA 3ENDOFONON 3YFEN_KATO 4ANO 3STAVROS 3KLASMA_ANO
3DIPLI_ARCHAION 3KRATIMA+1 4ALLO 4NEO 3APODERMA+1 3APLI 3DIPLI 3TRIPLI 3TETRAPLI 3KORONIS
3LEIMMA_ENOS_CHRONOU 4DYO_CHRONON 4TRION+1 4TESSARON+1 4IMISEOS_CHRONOU 3GORGON_NEO_ANO
4PARESTIGMENON_ARISTERA 5DEXIA 3DIGORGON 4PARESTIGMENON_ARISTERA_KATO 6ANO 5DEXIA 3TRIGORGON 3ARGON
3IMIDIARGON 3DIARGON 3AGOGI_POLI_ARGI 4ARGOTERI 4ARGI 4METRIA 4MESI 4GORGI 4GORGOTERI 4POLI_GORGI
3MARTYRIA_PROTOS_ICHOS 4ALLI+2 4DEYTEROS+1 4ALLI+2 4TRITOS+1 4TRIFONIAS 4TETARTOS_ICHOS 5LEGETOS+1
4+2 4PLAGIOS+1 3ISAKIA_TELOUS_ICHIMATOS 3APOSTROFOI+2 3FANEROSIS_TETRAFONIAS 4MONOFONIAS 4DIFONIAS
3MARTYRIA_VARYS_ICHOS 4PROTOVARYS+1 4PLAGIOS_TETARTOS+1 3GORTHMIKON_N_APLOUN 5DIPLOUN
3ENARXIS_KAI_FTHORA_VOU 3IMIFONON 3IMIFTHORON 3FTHORA_ARCHAION_DEYTEROU_ICHOU 4DIATONIKI_PA 5NANA
4NAOS_ICHOS 4DIATONIKI_DI 4SKLIRON_DIATONON+1 4DIATONIKI_KE 5ZO 5NI_KATO 6ANO
4MALAKON_CHROMA_DIFONIAS 6MONOFONIAS 3FHTORA_SKLIRON_CHROMA_VASIS 3FTHORA_SKLIRON_CHROMA_SYNAFI
4NENANO 3CHROA_ZYGOS 4KLITON 4SPATHI 3FTHORA_I_YFESIS_TETARTIMORION 4ENARMONIOS_ANTIFONIA
3YFESIS_TRITIMORION 3DIESIS+1 4TETARTIMORION 4APLI_DYO_DODEKATA 4MONOGRAMMOS_TESSERA+1
4DIGRAMMOS_EX+1 4TRIGRAMMOS_OKTO+1 3YFESIS_APLI_DYO+1 4MONOGRAMMOS_TESSERA+1 4DIGRAMMOS_EX+1
4TRIGRAMMOS_OKTO+1 3GENIKI_DIESIS 4YFESIS 3DIASTOLI_APLI_MIKRI 5MEGALI 4DIPLI 4THESEOS 3SIMANSIS+1
5DISIMOU 5TRISIMOU 5TETRASIMOU 4ARSEOS 5DISIMOU 5TRISIMOU 5TETRASIMOU 3DIGRAMMA_GG 3DIFTOGGOS_OU
3STIGMA 3ARKTIKO_PA 4VOU 4GA 4DI 4KE 4ZO 4NI 3KENTIMATA_NEO_MESO 3KENTIMA+2 3KENTIMATA_NEO_KATO
3KENTIMA+2 3KLASMA+1 3GORGON_NEO+1 @1D100 0MUSICAL_SYMBOL_SINGLE_BARLINE 2DOUBLE+1 2FINAL+1
2REVERSE+2 2DASHED+1 2SHORT+1 2LEFT_REPEAT_SIGN 2RIGHT+2 2REPEAT_DOTS 2DAL_SEGNO 2DA_CAPO 2SEGNO
2CODA 2REPEATED_FIGURE-1 3FIGURE-2 3FIGURE-3 2FERMATA 3BELOW 2BREATH_MARK 2CAESURA 2BRACE 2BRACKET
2ONE-LINE_STAFF 2TWO-LINE+1 2THREE-LINE+1 2FOUR-LINE+1 2FIVE-LINE+1 2SIX-LINE+1
2SIX-STRING_FRETBOARD 2FOUR-STRING+1 2G_CLEF 4OTTAVA_ALTA 5BASSA 2C_CLEF 2F+1 4OTTAVA_ALTA 5BASSA
2DRUM_CLEF-1 3CLEF-2 @1D129 2MULTIPLE_MEASURE_REST 2DOUBLE_SHARP 3FLAT 2FLAT_UP 3DOWN 2NATURAL_UP
3DOWN 2SHARP_UP 3DOWN 2QUARTER_TONE_SHARP 4FLAT 2COMMON_TIME 2CUT+1 2OTTAVA_ALTA 3BASSA
2QUINDICESIMA_ALTA 3BASSA 2MULTI_REST 2WHOLE+1 2HALF+1 2QUARTER+1 2EIGHTH+1 2SIXTEENTH+1
2THIRTY-SECOND+1 2SIXTY-FOURTH+1 2ONE_HUNDRED_TWENTY-EIGHTH+1 2X_NOTEHEAD 2PLUS+1 2CIRCLE_X+1
2SQUARE_NOTEHEAD_WHITE 4BLACK 2TRIANGLE_NOTEHEAD_UP_WHITE 5BLACK 4LEFT_WHITE 5BLACK 4RIGHT_WHITE
5BLACK 4DOWN_WHITE 5BLACK 4UP_RIGHT_WHITE 6BLACK 2MOON_NOTEHEAD_WHITE 4BLACK
2TRIANGLE-ROUND_NOTEHEAD_DOWN_WHITE 5BLACK 2PARENTHESIS_NOTEHEAD 2VOID+1 2NOTEHEAD_BLACK
2NULL_NOTEHEAD 2CLUSTER_NOTEHEAD_WHITE 4BLACK 2BREVE 2WHOLE_NOTE 2HALF+1 2QUARTER+1 2EIGHTH+1
2SIXTEENTH+1 2THIRTY-SECOND+1 2SIXTY-FOURTH+1 2ONE_HUNDRED_TWENTY-EIGHTH+1 2COMBINING_STEM
3SPRECHGESANG+1 3TREMOLO-1 3TREMOLO-2 3TREMOLO-3 2FINGERED_TREMOLO-1 3TREMOLO-2 3TREMOLO-3
2COMBINING_AUGMENTATION_DOT 3FLAG-1 3FLAG-2 3FLAG-3 3FLAG-4 3FLAG-5 2BEGIN_BEAM 2END+1 2BEGIN_TIE
2END+1 2BEGIN_SLUR 2END+1 2BEGIN_PHRASE 2END+1 2COMBINING_ACCENT 3STACCATO 3TENUTO 3STACCATISSIMO
3MARCATO 3MARCATO-STACCATO 3ACCENT-STACCATO 3LOURE 2ARPEGGIATO_UP 3DOWN 2COMBINING_DOIT 3RIP 3FLIP
3SMEAR 3BEND 3DOUBLE_TONGUE 3TRIPLE+1 2RINFORZANDO 2SUBITO 2Z 2PIANO 2MEZZO 2FORTE 2CRESCENDO
2DECRESCENDO 2GRACE_NOTE_SLASH 4NO+1 2TR 2TURN 2INVERTED+1 2TURN_SLASH 3UP 2ORNAMENT_STROKE-1
3STROKE-2 3STROKE-3 3STROKE-4 3STROKE-5 3STROKE-6 3STROKE-7 3STROKE-8 3STROKE-9 3STROKE-10
3STROKE-11 2HAUPTSTIMME 2NEBENSTIMME 2END_OF_STIMME 2DEGREE_SLASH 2COMBINING_DOWN_BOW 3UP+1
3HARMONIC 3SNAP_PIZZICATO 2PEDAL_MARK 3UP+1 2HALF_PEDAL+1 2GLISSANDO_UP 3DOWN 2WITH_FINGERNAILS
2DAMP 3ALL 2MAXIMA 2LONGA 2BREVIS 2SEMIBREVIS_WHITE 3BLACK 2MINIMA 3BLACK 2SEMIMINIMA_WHITE 3BLACK
2FUSA_WHITE 3BLACK 2LONGA_PERFECTA_REST 3IMPERFECTA+1 2BREVIS+1 2SEMIBREVIS+1 2MINIMA+1
2SEMIMINIMA+1 2TEMPUS_PERFECTUM_CUM_PROLATIONE_PERFECTA 6IMPERFECTA 6PERFECTA_DIMINUTION-1
3IMPERFECTUM_CUM_PROLATIONE_PERFECTA 6IMPERFECTA 7DIMINUTION-1 7DIMINUTION-2 7DIMINUTION-3 2CROIX
2GREGORIAN_C_CLEF 3F+1 2SQUARE_B 2VIRGA 2PODATUS 2CLIVIS 2SCANDICUS 2CLIMACUS 2TORCULUS 2PORRECTUS
3FLEXUS 2SCANDICUS+1 2TORCULUS_RESUPINUS 2PES_SUBPUNCTIS 2KIEVAN_C_CLEF 3END_OF_PIECE 3FINAL_NOTE
3RECITATIVE_MARK 3WHOLE_NOTE 3HALF+1 3QUARTER_NOTE_STEM_DOWN 6UP 3EIGHTH_NOTE_STEM_DOWN 6UP
3FLAT_SIGN 2SORI 2KORON @1D200 0GREEK_VOCAL_NOTATION_SYMBOL-1 3SYMBOL-2 3SYMBOL-3 3SYMBOL-4
3SYMBOL-5 3SYMBOL-6 3SYMBOL-7 3SYMBOL-8 3SYMBOL-9 3SYMBOL-10 3SYMBOL-11 3SYMBOL-12 3SYMBOL-13
3SYMBOL-14 3SYMBOL-15 3SYMBOL-16 3SYMBOL-17 3SYMBOL-18 3SYMBOL-19 3SYMBOL-20 3SYMBOL-21 3SYMBOL-22
3SYMBOL-23 3SYMBOL-24 3SYMBOL-50 3SYMBOL-51 3SYMBOL-52 3SYMBOL-53 3SYMBOL-54
1INSTRUMENTAL_NOTATION_SYMBOL-1 3SYMBOL-2 3SYMBOL-4 3SYMBOL-5 3SYMBOL-7 3SYMBOL-8 3SYMBOL-11
3SYMBOL-12 3SYMBOL-13 3SYMBOL-14 3SYMBOL-17 3SYMBOL-18 3SYMBOL-19 3SYMBOL-23 3SYMBOL-24 3SYMBOL-25
3SYMBOL-26 3SYMBOL-27 3SYMBOL-29 3SYMBOL-30 3SYMBOL-32 3SYMBOL-36 3SYMBOL-37 3SYMBOL-38 3SYMBOL-39
3SYMBOL-40 3SYMBOL-42 3SYMBOL-43 3SYMBOL-45 3SYMBOL-47 3SYMBOL-48 3SYMBOL-49 3SYMBOL-50 3SYMBOL-51
3SYMBOL-52 3SYMBOL-53 3SYMBOL-54 0COMBINING_GREEK_MUSICAL_TRISEME 3TETRASEME 3PENTASEME
0GREEK_MUSICAL_LEIMMA @1D2E0 0MAYAN_NUMERAL_ZERO 2ONE 2TWO 2THREE 2FOUR 2FIVE 2SIX 2SEVEN 2EIGHT
2NINE 2TEN 2ELEVEN 2TWELVE 2THIRTEEN 2FOURTEEN 2FIFTEEN 2SIXTEEN 2SEVENTEEN 2EIGHTEEN 2NINETEEN
@1D300 0MONOGRAM_FOR_EARTH 0DIGRAM_FOR_HEAVENLY+1 2HUMAN+1 2EARTHLY_HEAVEN 3HUMAN 2EARTH
0TETRAGRAM_FOR_CENTRE 2FULL_CIRCLE 2MIRED 2BARRIER 2KEEPING_SMALL 2CONTRARIETY 2ASCENT 2OPPOSITION
2BRANCHING_OUT 2DEFECTIVENESS_OR_DISTORTION 2DIVERGENCE 2YOUTHFULNESS 2INCREASE 2PENETRATION 2REACH
2CONTACT 2HOLDING_BACK 2WAITING 2FOLLOWING 2ADVANCE 2RELEASE 2RESISTANCE 2EASE 2JOY 2CONTENTION
2ENDEAVOUR 2DUTIES 2CHANGE 2DECISIVENESS 2BOLD_RESOLUTION 2PACKING 2LEGION 2CLOSENESS 2KINSHIP
2GATHERING 2STRENGTH 2PURITY 2FULLNESS 2RESIDENCE 2LAW_OR_MODEL 2RESPONSE 2GOING_TO_MEET
2ENCOUNTERS 2STOVE 2GREATNESS 2ENLARGEMENT 2PATTERN 2RITUAL 2FLIGHT 2VASTNESS_OR_WASTING 2CONSTANCY
2MEASURE 2ETERNITY 2UNITY 2DIMINISHMENT 2CLOSED_MOUTH 2GUARDEDNESS 2GATHERING_IN 2MASSING
2ACCUMULATION 2EMBELLISHMENT 2DOUBT 2WATCH 2SINKING 2INNER 2DEPARTURE 2DARKENING 2DIMMING
2EXHAUSTION 2SEVERANCE 2STOPPAGE 2HARDNESS 2COMPLETION 2CLOSURE 2FAILURE 2AGGRAVATION 2COMPLIANCE
2ON_THE_VERGE 2DIFFICULTIES 2LABOURING 2FOSTERING @1D360 0COUNTING_ROD_UNIT_DIGIT_ONE 4TWO 4THREE
4FOUR 4FIVE 4SIX 4SEVEN 4EIGHT 4NINE 2TENS_DIGIT_ONE 4TWO 4THREE 4FOUR 4FIVE 4SIX 4SEVEN 4EIGHT
4NINE 0IDEOGRAPHIC_TALLY_MARK_ONE 3TWO 3THREE 3FOUR 3FIVE 0TALLY_MARK_ONE 2FIVE @1D400
0MATHEMATICAL_BOLD_CAPITAL_A 3B 3C 3D 3E 3F 3G 3H 3I 3J 3K 3L 3M 3N 3O 3P 3Q 3R 3S 3T 3U 3V 3W 3X
3Y 3Z 2SMALL_A 3B 3C 3D 3E 3F 3G 3H 3I 3J 3K 3L 3M 3N 3O 3P 3Q 3R 3S 3T 3U 3V 3W 3X 3Y 3Z
1ITALIC_CAPITAL_A 3B 3C 3D 3E 3F 3G 3H 3I 3J 3K 3L 3M 3N 3O 3P 3Q 3R 3S 3T 3U 3V 3W 3X 3Y 3Z
2SMALL_A 3B 3C 3D 3E 3F 3G @1D456 3I 3J 3K 3L 3M 3N 3O 3P 3Q 3R 3S 3T 3U 3V 3W 3X 3Y 3Z
1BOLD_ITALIC_CAPITAL_A 4B 4C 4D 4E 4F 4G 4H 4I 4J 4K 4L 4M 4N 4O 4P 4Q 4R 4S 4T 4U 4V 4W 4X 4Y 4Z
3SMALL_A 4B 4C 4D 4E 4F 4G 4H 4I 4J 4K 4L 4M 4N 4O 4P 4Q 4R 4S 4T 4U 4V 4W 4X 4Y 4Z
1SCRIPT_CAPITAL_A @1D49E 3C 3D @1D4A2 3G @1D4A5 3J 3K @1D4A9 3N 3O 3P 3Q @1D4AE 3S 3T 3U 3V 3W 3X
3Y 3Z 2SMALL_A 3B 3C 3D @1D4BB 3F @1D4BD 3H 3I 3J 3K 3L 3M 3N @1D4C5 3P 3Q 3R 3S 3T 3U 3V 3W 3X 3Y
3Z 1BOLD_SCRIPT_CAPITAL_A 4B 4C 4D 4E 4F 4G 4H 4I 4J 4K 4L 4M 4N 4O 4P 4Q 4R 4S 4T 4U 4V 4W 4X 4Y
4Z 3SMALL_A 4B 4C 4D 4E 4F 4G 4H 4I 4J 4K 4L 4M 4N 4O 4P 4Q 4R 4S 4T 4U 4V 4W 4X 4Y 4Z
1FRAKTUR_CAPITAL_A 3B @1D507 3D 3E 3F 3G @1D50D 3J 3K 3L 3M 3N 3O 3P 3Q @1D516 3S 3T 3U 3V 3W 3X 3Y
@1D51E 2SMALL_A 3B 3C 3D 3E 3F 3G 3H 3I 3J 3K 3L 3M 3N 3O 3P 3Q 3R 3S 3T 3U 3V 3W 3X 3Y 3Z
1DOUBLE-STRUCK_CAPITAL_A 3B @1D53B 3D 3E 3F 3G @1D540 3I 3J 3K 3L 3M @1D546 3O @1D54A 3S 3T 3U 3V
3W 3X 3Y @1D552 2SMALL_A 3B 3C 3D 3E 3F 3G 3H 3I 3J 3K 3L 3M 3N 3O 3P 3Q 3R 3S 3T 3U 3V 3W 3X 3Y 3Z
1BOLD_FRAKTUR_CAPITAL_A 4B 4C 4D 4E 4F 4G 4H 4I 4J 4K 4L 4M 4N 4O 4P 4Q 4R 4S 4T 4U 4V 4W 4X 4Y 4Z
3SMALL_A 4B 4C 4D 4E 4F 4G 4H 4I 4J 4K 4L 4M 4N 4O 4P 4Q 4R 4S 4T 4U 4V 4W 4X 4Y 4Z
1SANS-SERIF_CAPITAL_A 3B 3C 3D 3E 3F 3G 3H 3I 3J 3K 3L 3M 3N 3O 3P 3Q 3R 3S 3T 3U 3V 3W 3X 3Y 3Z
2SMALL_A 3B 3C 3D 3E 3F 3G 3H 3I 3J 3K 3L 3M 3N 3O 3P 3Q 3R 3S 3T 3U 3V 3W 3X 3Y 3Z 2BOLD_CAPITAL_A
4B 4C 4D 4E 4F 4G 4H 4I 4J 4K 4L 4M 4N 4O 4P 4Q 4R 4S 4T 4U 4V 4W 4X 4Y 4Z 3SMALL_A 4B 4C 4D 4E 4F
4G 4H 4I 4J 4K 4L 4M 4N 4O 4P 4Q 4R 4S 4T 4U 4V 4W 4X 4Y 4Z 2ITALIC_CAPITAL_A 4B 4C 4D 4E 4F 4G 4H
4I 4J 4K 4L 4M 4N 4O 4P 4Q 4R 4S 4T 4U 4V 4W 4X 4Y 4Z 3SMALL_A 4B 4C 4D 4E 4F 4G 4H 4I 4J 4K 4L 4M
4N 4O 4P 4Q 4R 4S 4T 4U 4V 4W 4X 4Y 4Z 2BOLD_ITALIC_CAPITAL_A 5B 5C 5D 5E 5F 5G 5H 5I 5J 5K 5L 5M
5N 5O 5P 5Q 5R 5S 5T 5U 5V 5W 5X 5Y 5Z 4SMALL_A 5B 5C 5D 5E 5F 5G 5H 5I 5J 5K 5L 5M 5N 5O 5P 5Q 5R
5S 5T 5U 5V 5W 5X 5Y 5Z 1MONOSPACE_CAPITAL_A 3B 3C 3D 3E 3F 3G 3H 3I 3J 3K 3L 3M 3N 3O 3P 3Q 3R 3S
3T 3U 3V 3W 3X 3Y 3Z 2SMALL_A 3B 3C 3D 3E 3F 3G 3H 3I 3J 3K 3L 3M 3N 3O 3P 3Q 3R 3S 3T 3U 3V 3W 3X
3Y 3Z 1ITALIC_SMALL_DOTLESS_I 4J @1D6A8 1BOLD_CAPITAL_ALPHA 3BETA 3GAMMA 3DELTA 3EPSILON 3ZETA 3ETA
3THETA 3IOTA 3KAPPA 3LAMDA 3MU 3NU 3XI 3OMICRON 3PI 3RHO 3THETA_SYMBOL 3SIGMA 3TAU 3UPSILON 3PHI
3CHI 3PSI 3OMEGA 2NABLA 2SMALL_ALPHA 3BETA 3GAMMA 3DELTA 3EPSILON 3ZETA 3ETA 3THETA 3IOTA 3KAPPA
3LAMDA 3MU 3NU 3XI 3OMICRON 3PI 3RHO 3FINAL_SIGMA 3+1 3TAU 3UPSILON 3PHI 3CHI 3PSI 3OMEGA
2PARTIAL_DIFFERENTIAL 2EPSILON_SYMBOL 2THETA+1 2KAPPA+1 2PHI+1 2RHO+1 2PI+1 1ITALIC_CAPITAL_ALPHA
3BETA 3GAMMA 3DELTA 3EPSILON 3ZETA 3ETA 3THETA 3IOTA 3KAPPA 3LAMDA 3MU 3NU 3XI 3OMICRON 3PI 3RHO
3THETA_SYMBOL 3SIGMA 3TAU 3UPSILON 3PHI 3CHI 3PSI 3OMEGA 2NABLA 2SMALL_ALPHA 3BETA 3GAMMA 3DELTA
3EPSILON 3ZETA 3ETA 3THETA 3IOTA 3KAPPA 3LAMDA 3MU 3NU 3XI 3OMICRON 3PI 3RHO 3FINAL_SIGMA 3+1 3TAU
3UPSILON 3PHI 3CHI 3PSI 3OMEGA 2PARTIAL_DIFFERENTIAL 2EPSILON_SYMBOL 2THETA+1 2KAPPA+1 2PHI+1
2RHO+1 2PI+1 1BOLD_ITALIC_CAPITAL_ALPHA 4BETA 4GAMMA 4DELTA 4EPSILON 4ZETA 4ETA 4THETA 4IOTA 4KAPPA
4LAMDA 4MU 4NU 4XI 4OMICRON 4PI 4RHO 4THETA_SYMBOL 4SIGMA 4TAU 4UPSILON 4PHI 4CHI 4PSI 4OMEGA
3NABLA 3SMALL_ALPHA 4BETA 4GAMMA 4DELTA 4EPSILON 4ZETA 4ETA 4THETA 4IOTA 4KAPPA 4LAMDA 4MU 4NU 4XI
4OMICRON 4PI 4RHO 4FINAL_SIGMA 4+1 4TAU 4UPSILON 4PHI 4CHI 4PSI 4OMEGA 3PARTIAL_DIFFERENTIAL
3EPSILON_SYMBOL 3THETA+1 3KAPPA+1 3PHI+1 3RHO+1 3PI+1 1SANS-SERIF_BOLD_CAPITAL_ALPHA 4BETA 4GAMMA
4DELTA 4EPSILON 4ZETA 4ETA 4THETA 4IOTA 4KAPPA 4LAMDA 4MU 4NU 4XI 4OMICRON 4PI 4RHO 4THETA_SYMBOL
4SIGMA 4TAU 4UPSILON 4PHI 4CHI 4PSI 4OMEGA 3NABLA 3SMALL_ALPHA 4BETA 4GAMMA 4DELTA 4EPSILON 4ZETA
4ETA 4THETA 4IOTA 4KAPPA 4LAMDA 4MU 4NU 4XI 4OMICRON 4PI 4RHO 4FINAL_SIGMA 4+1 4TAU 4UPSILON 4PHI
4CHI 4PSI 4OMEGA 3PARTIAL_DIFFERENTIAL 3EPSILON_SYMBOL 3THETA+1 3KAPPA+1 3PHI+1 3RHO+1 3PI+1
3ITALIC_CAPITAL_ALPHA 5BETA 5GAMMA 5DELTA 5EPSILON 5ZETA 5ETA 5THETA 5IOTA 5KAPPA 5LAMDA 5MU 5NU
5XI 5OMICRON 5PI 5RHO 5THETA_SYMBOL 5SIGMA 5TAU 5UPSILON 5PHI 5CHI 5PSI 5OMEGA 4NABLA 4SMALL_ALPHA
5BETA 5GAMMA 5DELTA 5EPSILON 5ZETA 5ETA 5THETA 5IOTA 5KAPPA 5LAMDA 5MU 5NU 5XI 5OMICRON 5PI 5RHO
5FINAL_SIGMA 5+1 5TAU 5UPSILON 5PHI 5CHI 5PSI 5OMEGA 4PARTIAL_DIFFERENTIAL 4EPSILON_SYMBOL 4THETA+1
4KAPPA+1 4PHI+1 4RHO+1 4PI+1 1BOLD_CAPITAL_DIGAMMA 2SMALL+1 @1D7CE 2DIGIT_ZERO 3ONE 3TWO 3THREE
3FOUR 3FIVE 3SIX 3SEVEN 3EIGHT 3NINE 1DOUBLE-STRUCK_DIGIT_ZERO 3ONE 3TWO 3THREE 3FOUR 3FIVE 3SIX
3SEVEN 3EIGHT 3NINE 1SANS-SERIF_DIGIT_ZERO 3ONE 3TWO 3THREE 3FOUR 3FIVE 3SIX 3SEVEN 3EIGHT 3NINE
2BOLD_DIGIT_ZERO 4ONE 4TWO 4THREE 4FOUR 4FIVE 4SIX 4SEVEN 4EIGHT 4NINE 1MONOSPACE_DIGIT_ZERO 3ONE
3TWO 3THREE 3FOUR 3FIVE 3SIX 3SEVEN 3EIGHT 3NINE 0SIGNWRITING_HAND-FIST_INDEX 1HAND-CIRCLE+1
1HAND-CUP+1 1HAND-OVAL+1 1HAND-HINGE+1 1HAND-ANGLE+1 1HAND-FIST_INDEX_BENT 1HAND-CIRCLE+2
1HAND-FIST_THUMB_UNDER+2 2INDEX_RAISED_KNUCKLE 3CUPPED 3HINGED 4LOW 1HAND-CIRCLE_INDEX_HINGE
1HAND-FIST_INDEX_MIDDLE 1HAND-CIRCLE+2 1HAND-FIST_INDEX_MIDDLE_BENT 4RAISED_KNUCKLES 4HINGED 3UP+2
3HINGED_MIDDLE_UP 3MIDDLE_CONJOINED 5INDEX_BENT 5MIDDLE+1 5CUPPED 5HINGED 4CROSSED 1HAND-CIRCLE+3
1HAND-FIST_MIDDLE_BENT_OVER_INDEX 2INDEX_BENT_OVER_MIDDLE 3MIDDLE_THUMB 1HAND-CIRCLE+3
1HAND-FIST_INDEX_MIDDLE_STRAIGHT_THUMB_BENT 4BENT_THUMB_STRAIGHT 4THUMB_BENT
4HINGED_SPREAD_THUMB_SIDE 3UP_MIDDLE_HINGED+2 7CONJOINED 3HINGED_MIDDLE_UP_THUMB_SIDE
3MIDDLE_UP_SPREAD_THUMB_FORWARD 4THUMB_CUPPED 5CIRCLED 5HOOKED 5HINGED
2THUMB_BETWEEN_INDEX_MIDDLE_STRAIGHT 2INDEX_MIDDLE_CONJOINED_THUMB_SIDE 7CONJOINED 7BENT
2MIDDLE_THUMB_HOOKED_INDEX_UP 2INDEX_THUMB_HOOKED_MIDDLE+1 3MIDDLE_CONJOINED_HINGED_THUMB_SIDE
4CROSSED+2 4CONJOINED_THUMB_FORWARD 5CUPPED+2 2MIDDLE_THUMB_CUPPED_INDEX_UP
2INDEX_THUMB_CUPPED_MIDDLE+1 2MIDDLE_THUMB_CIRCLED_INDEX+1 6HINGED
2INDEX_THUMB_ANGLED_OUT_MIDDLE_UP 5IN+2 4CIRCLED+2 3MIDDLE_THUMB_CONJOINED_HINGED 5ANGLED_OUT 6
2MIDDLE_THUMB_ANGLED_OUT_INDEX_UP 7CROSSED 5INDEX_UP 2INDEX_THUMB_HOOKED_MIDDLE_HINGED
1HAND-FLAT_FOUR_FINGERS 4BENT 4HINGED 4CONJOINED 5SPLIT 1HAND-CLAW_FOUR_FINGERS_CONJOINED
1HAND-FIST_FOUR_FINGERS_CONJOINED_BENT 1HAND-HINGE_FOUR_FINGERS_CONJOINED
1HAND-FLAT_FIVE_FINGERS_SPREAD 2HEEL+3 2FIVE_FINGERS_SPREAD_FOUR_BENT 2HEEL+5
2FIVE_FINGERS_SPREAD+1 2HEEL+4 2FIVE_FINGERS_SPREAD_THUMB_FORWARD 1HAND-CUP_FIVE_FINGERS_SPREAD
5OPEN 1HAND-HINGE+4 1HAND-OVAL_FIVE_FINGERS_SPREAD 1HAND-FLAT_FIVE_FINGERS_SPREAD_HINGED
6THUMB_SIDE 6NO_THUMB 2 2BETWEEN_PALM_FACINGS 2HEEL 2THUMB_SIDE 2HEEL+2 2THUMB_BENT 3FORWARD
2SPLIT_INDEX_THUMB_SIDE 3CENTRE 4THUMB_SIDE 6BENT 3LITTLE 1HAND-CLAW 2THUMB_SIDE 2NO_THUMB
2THUMB_FORWARD 1HAND-HOOK_CURLICUE 2 1HAND-CUP_OPEN 2 2OPEN_THUMB_SIDE 2+2 2OPEN_NO_THUMB 2+2
2OPEN_THUMB_FORWARD 2+2 1HAND-CURLICUE_OPEN 2 1HAND-CIRCLE 1HAND-OVAL 2THUMB_SIDE 2NO_THUMB
2THUMB_FORWARD 1HAND-HINGE_OPEN 3THUMB_FORWARD 2 2SMALL 2OPEN_THUMB_SIDE 2+2 2OPEN_NO_THUMB 2+2
2THUMB_SIDE_TOUCHING_INDEX 3BETWEEN_MIDDLE_RING 1HAND-ANGLE 1HAND-FIST_INDEX_MIDDLE_RING
1HAND-CIRCLE+3 1HAND-HINGE+3 1HAND-ANGLE+3 1HAND-HINGE_LITTLE 1HAND-FIST_INDEX_MIDDLE_RING_BENT
5CONJOINED 1HAND-HINGE+4 1HAND-FIST_LITTLE_DOWN 4RIPPLE_STRAIGHT 5CURVED 4OTHERS_CIRCLED 3UP
2THUMB_UNDER+2 1HAND-CIRCLE+2 1HAND-OVAL+2 1HAND-ANGLE+2 1HAND-FIST_LITTLE_RAISED_KNUCKLE 3BENT
3TOUCHES_THUMB 3+1 1HAND-HINGE+2 1HAND-FIST_LITTLE_INDEX+1 1HAND-HINGE+3
1HAND-ANGLE_LITTLE_INDEX_THUMB_INDEX_THUMB_OUT 7 1HAND-FIST_LITTLE_INDEX 1HAND-CIRCLE+2
1HAND-HINGE+2 1HAND-ANGLE+2 1HAND-FIST_INDEX_MIDDLE_LITTLE 1HAND-CIRCLE+3 1HAND-HINGE+3 2RING
1HAND-ANGLE_INDEX_MIDDLE_LITTLE 1HAND-FIST_INDEX_MIDDLE_CROSS+1 1HAND-CIRCLE+4 1HAND-FIST_RING_DOWN
1HAND-HINGE_RING_DOWN_INDEX_THUMB_HOOK_MIDDLE 1HAND-ANGLE_RING_DOWN_MIDDLE_THUMB_INDEX_CROSS
1HAND-FIST_RING_UP 3RAISED_KNUCKLE 3LITTLE 1HAND-CIRCLE+2 1HAND-OVAL+2 1HAND-ANGLE+2
1HAND-FIST_RING_MIDDLE 4CONJOINED 4RAISED_KNUCKLES 3INDEX 3THUMB 1HAND-HOOK+2
1HAND-FIST_INDEX_RING_LITTLE 1HAND-CIRCLE+3 1HAND-CURLICUE_INDEX_RING_LITTLE_ON
1HAND-HOOK_INDEX_RING_LITTLE_OUT 5IN 5UNDER 1HAND-CUP_INDEX_RING_LITTLE 1HAND-HINGE+3
1HAND-ANGLE_INDEX_RING_LITTLE_OUT 5 1HAND-FIST_MIDDLE_DOWN 1HAND-HINGE_MIDDLE 1HAND-FIST_MIDDLE_UP
1HAND-CIRCLE+2 1HAND-FIST_MIDDLE_RAISED_KNUCKLE 3UP_THUMB_SIDE 1HAND-HOOK_MIDDLE_THUMB
1HAND-FIST_MIDDLE_THUMB_LITTLE 3+1 3RING+1 1HAND-CIRCLE+3 1HAND-CURLICUE_MIDDLE_RING_LITTLE_ON
1HAND-CUP_MIDDLE_RING_LITTLE 1HAND-HINGE+3 1HAND-ANGLE_MIDDLE_RING_LITTLE_OUT 5IN 5
1HAND-CIRCLE_MIDDLE_RING_LITTLE_BENT 1HAND-CLAW_MIDDLE_RING_LITTLE_CONJOINED 6SIDE
1HAND-HOOK_MIDDLE_RING_LITTLE_CONJOINED_OUT 6IN 6 1HAND-HINGE_INDEX_HINGED
1HAND-FIST_INDEX_THUMB_SIDE 1HAND-HINGE+3 1HAND-FIST_INDEX_THUMB_SIDE_THUMB_DIAGONAL 6CONJOINED
6BENT 5INDEX+1 5BOTH+1 5INDEX_HINGE 4FORWARD_INDEX_STRAIGHT 6BENT 4HOOK 4CURLICUE
4CURVE_THUMB_INSIDE 1HAND-CLAW+5 1HAND-FIST_INDEX_THUMB_CURVE_THUMB_UNDER 4CIRCLE
1HAND-CUP_INDEX_THUMB 4OPEN 1HAND-HINGE+3 4LARGE 4 4SMALL 1HAND-ANGLE_INDEX_THUMB_OUT 4IN 4
1HAND-FIST+1 3HEEL 3SIDE_DIAGONAL 4CONJOINED 4BENT 3FORWARD 3BETWEEN_INDEX_MIDDLE 4MIDDLE_RING
4RING_LITTLE 3UNDER_TWO_FINGERS 3OVER+2 3UNDER_THREE+1 4FOUR+1 3OVER_FOUR_RAISED_KNUCKLES 2 2HEEL
1TOUCH_SINGLE 2MULTIPLE 2BETWEEN 1GRASP_SINGLE 2MULTIPLE 2BETWEEN 1STRIKE_SINGLE 2MULTIPLE 2BETWEEN
1BRUSH_SINGLE 2MULTIPLE 2BETWEEN 1RUB_SINGLE 2MULTIPLE 2BETWEEN 1SURFACE_SYMBOLS 2BETWEEN
1SQUEEZE_LARGE_SINGLE 2SMALL+1 2LARGE_MULTIPLE 2SMALL+1 2SEQUENTIAL 1FLICK_LARGE_SINGLE 2SMALL+1
2LARGE_MULTIPLE 2SMALL+1 2SEQUENTIAL 1SQUEEZE_FLICK_ALTERNATING 1MOVEMENT-HINGE_UP_DOWN_LARGE
4SMALL 3SEQUENTIAL 2DOWN+1 2UP_DOWN_ALTERNATING_LARGE 5SMALL 2SIDE_TO_SIDE_SCISSORS
1MOVEMENT-WALLPLANE_FINGER_CONTACT 1MOVEMENT-FLOORPLANE+2 1MOVEMENT-WALLPLANE_SINGLE_STRAIGHT_SMALL
4MEDIUM 4LARGE 4LARGEST 3WRIST_FLEX 2DOUBLE_STRAIGHT 3WRIST_FLEX 3ALTERNATING 4WRIST_FLEX 2CROSS
2TRIPLE_STRAIGHT_MOVEMENT 3WRIST_FLEX 3ALTERNATING 4WRIST_FLEX 2BEND_SMALL 3MEDIUM 3LARGE
2CORNER_SMALL 3MEDIUM 3LARGE 3ROTATION 2CHECK_SMALL 3MEDIUM 3LARGE 2BOX_SMALL 3MEDIUM 3LARGE
2ZIGZAG_SMALL 3MEDIUM 3LARGE 2PEAKS_SMALL 3MEDIUM 3LARGE
1TRAVEL-WALLPLANE_ROTATION-WALLPLANE_SINGLE 3DOUBLE 3ALTERNATING 2ROTATION-FLOORPLANE_SINGLE
3DOUBLE 3ALTERNATING 2SHAKING 2ARM_SPIRAL_SINGLE 4DOUBLE 4TRIPLE 1MOVEMENT-DIAGONAL_AWAY_SMALL
3MEDIUM 3LARGE 3LARGEST 2TOWARDS_SMALL 3MEDIUM 3LARGE 3LARGEST 2BETWEEN_AWAY_SMALL 4MEDIUM 4LARGE
4LARGEST 3TOWARDS_SMALL 4MEDIUM 4LARGE 4LARGEST 1MOVEMENT-FLOORPLANE_SINGLE_STRAIGHT_SMALL 4MEDIUM
4LARGE 4LARGEST 3WRIST_FLEX 2DOUBLE_STRAIGHT 3WRIST_FLEX 3ALTERNATING 4WRIST_FLEX 2CROSS
2TRIPLE_STRAIGHT_MOVEMENT 3WRIST_FLEX 3ALTERNATING_MOVEMENT 4WRIST_FLEX 2BEND 2CORNER_SMALL 3MEDIUM
3LARGE 2CHECK 2BOX_SMALL 3MEDIUM 3LARGE 2ZIGZAG_SMALL 3MEDIUM 3LARGE 2PEAKS_SMALL 3MEDIUM 3LARGE
1TRAVEL-FLOORPLANE_ROTATION-FLOORPLANE_SINGLE 3DOUBLE 3ALTERNATING 2ROTATION-WALLPLANE_SINGLE
3DOUBLE 3ALTERNATING 2SHAKING 1MOVEMENT-WALLPLANE_CURVE_QUARTER_SMALL 4MEDIUM 4LARGE 4LARGEST
3HALF-CIRCLE_SMALL 4MEDIUM 4LARGE 4LARGEST 3THREE-QUARTER_CIRCLE_SMALL 5MEDIUM 2HUMP_SMALL 3MEDIUM
3LARGE 2LOOP_SMALL 3MEDIUM 3LARGE 3SMALL_DOUBLE 2WAVE_CURVE_DOUBLE_SMALL 5MEDIUM 5LARGE
4TRIPLE_SMALL 5MEDIUM 5LARGE 2CURVE_THEN_STRAIGHT 2CURVED_CROSS_SMALL 4MEDIUM
1ROTATION-WALLPLANE_SINGLE 2DOUBLE 2ALTERNATE 1MOVEMENT-WALLPLANE_SHAKING 2CURVE_HITTING_FRONT_WALL
2HUMP+3 2LOOP+3 2WAVE+3 1ROTATION-WALLPLANE_SINGLE+3 2DOUBLE+3 2ALTERNATING+3
1MOVEMENT-WALLPLANE_CURVE_HITTING_CHEST 2HUMP+2 2LOOP+2 2WAVE+2 1ROTATION-WALLPLANE_SINGLE+2
2DOUBLE+2 2ALTERNATING+2 1MOVEMENT-WALLPLANE_WAVE_DIAGONAL_PATH_SMALL 5MEDIUM 5LARGE
1MOVEMENT-FLOORPLANE_CURVE_HITTING_CEILING_SMALL 5LARGE 2HUMP_HITTING_CEILING_SMALL_DOUBLE 5LARGE+1
5SMALL_TRIPLE 5LARGE+1 2LOOP_HITTING_CEILING_SMALL_SINGLE 5LARGE+1 5SMALL_DOUBLE 5LARGE+1
2WAVE_HITTING_CEILING_SMALL 5LARGE 1ROTATION-FLOORPLANE_SINGLE_HITTING_CEILING 2DOUBLE+2
2ALTERNATING+2 1MOVEMENT-FLOORPLANE_CURVE_HITTING_FLOOR_SMALL 5LARGE
2HUMP_HITTING_FLOOR_SMALL_DOUBLE 5LARGE+1 5TRIPLE_SMALL_TRIPLE 6LARGE+1
2LOOP_HITTING_FLOOR_SMALL_SINGLE 5LARGE+1 5SMALL_DOUBLE 5LARGE+1 2WAVE_HITTING_FLOOR_SMALL 5LARGE
1ROTATION-FLOORPLANE_SINGLE_HITTING_FLOOR 2DOUBLE+2 2ALTERNATING+2 1MOVEMENT-FLOORPLANE_CURVE_SMALL
3MEDIUM 3LARGE 3LARGEST 3COMBINED 2HUMP_SMALL 2LOOP+1 2WAVE_SNAKE 3SMALL 3LARGE
1ROTATION-FLOORPLANE_SINGLE 2DOUBLE 2ALTERNATING 1MOVEMENT-FLOORPLANE_SHAKING_PARALLEL
1MOVEMENT-WALLPLANE_ARM_CIRCLE_SMALL_SINGLE 4MEDIUM+1 4SMALL_DOUBLE 4MEDIUM+1
1MOVEMENT-FLOORPLANE_ARM_CIRCLE_HITTING_WALL_SMALL_SINGLE 6MEDIUM+1 6LARGE+1 6SMALL_DOUBLE
6MEDIUM+1 6LARGE+1 1MOVEMENT-WALLPLANE_WRIST_CIRCLE_FRONT_SINGLE 5DOUBLE
1MOVEMENT-FLOORPLANE_WRIST_CIRCLE_HITTING_WALL_SINGLE 6DOUBLE
1MOVEMENT-WALLPLANE_FINGER_CIRCLES_SINGLE 4DOUBLE
1MOVEMENT-FLOORPLANE_FINGER_CIRCLES_HITTING_WALL_SINGLE 6DOUBLE 1DYNAMIC_ARROWHEAD_SMALL 3LARGE
2FAST 2SLOW 2TENSE 2RELAXED 2SIMULTANEOUS 3ALTERNATING 2EVERY_OTHER_TIME 2GRADUAL 1HEAD 2RIM
2MOVEMENT-WALLPLANE_STRAIGHT 3TILT 2MOVEMENT-FLOORPLANE_STRAIGHT 2MOVEMENT-WALLPLANE_CURVE
2MOVEMENT-FLOORPLANE+1 2MOVEMENT_CIRCLE 1FACE_DIRECTION_POSITION_NOSE_FORWARD_TILTING 5UP_OR_DOWN
8TILTING 1EYEBROWS_STRAIGHT_UP 3NEUTRAL 3DOWN 1DREAMY_EYEBROWS_NEUTRAL+1 3DOWN_NEUTRAL 3UP+1
3NEUTRAL_UP 1FOREHEAD_NEUTRAL 2CONTACT 2WRINKLED 1EYES_OPEN 2SQUEEZED 2CLOSED 1EYE_BLINK_SINGLE
3MULTIPLE 1EYES_HALF_OPEN 2WIDE+1 2HALF_CLOSED 2WIDENING_MOVEMENT 1EYE_WINK 1EYELASHES_UP 2DOWN
2FLUTTERING 1EYEGAZE-WALLPLANE_STRAIGHT 3DOUBLE 3ALTERNATING 1EYEGAZE-FLOORPLANE_STRAIGHT 3DOUBLE
3ALTERNATING 1EYEGAZE-WALLPLANE_CURVED 1EYEGAZE-FLOORPLANE+1 1EYEGAZE-WALLPLANE_CIRCLING
1CHEEKS_PUFFED 2NEUTRAL 2SUCKED 1TENSE_CHEEKS_HIGH 3MIDDLE 3LOW 1EARS 1NOSE_NEUTRAL 2CONTACT
2WRINKLES 2WIGGLES 1AIR_BLOWING_OUT 2SUCKING_IN 2BLOW_SMALL_ROTATIONS 2SUCK+2 1BREATH_INHALE
2EXHALE 1MOUTH_CLOSED_NEUTRAL 3FORWARD 3CONTACT 2SMILE 3WRINKLED 3OPEN 2FROWN 3WRINKLED 3OPEN
2OPEN_CIRCLE 3FORWARD 3WRINKLED 3OVAL 4WRINKLED 4YAWN 3RECTANGLE 4WRINKLED 4YAWN 2KISS 3FORWARD
3WRINKLED 2TENSE 3FORWARD 3SUCKED 1LIPS_PRESSED_TOGETHER 1LIP_LOWER_OVER_UPPER 2UPPER_OVER_LOWER
1MOUTH_CORNERS 2WRINKLES_SINGLE 3DOUBLE 1TONGUE_STICKING_OUT_FAR 2LICKING_LIPS 2TIP_BETWEEN+1
3TOUCHING_INSIDE_MOUTH 2INSIDE_MOUTH_RELAXED 2MOVES_AGAINST_CHEEK 2CENTRE_STICKING_OUT
3INSIDE_MOUTH 1TEETH 2MOVEMENT 2ON_TONGUE 4MOVEMENT 3LIPS 4MOVEMENT 2BITE_LIPS
1MOVEMENT-WALLPLANE_JAW 1MOVEMENT-FLOORPLANE+1 1NECK 1HAIR 1EXCITEMENT 1SHOULDER_HIP_SPINE
3POSITIONS 1WALLPLANE_SHOULDER_HIP_MOVE 1FLOORPLANE+3 1SHOULDER_TILTING_FROM_WAIST
1TORSO-WALLPLANE_STRAIGHT_STRETCH 2CURVED_BEND 1TORSO-FLOORPLANE_TWISTING
1UPPER_BODY_TILTING_FROM_HIP_JOINTS 1LIMB_COMBINATION 2LENGTH-1 2LENGTH-2 2LENGTH-3 2LENGTH-4
2LENGTH-5 2LENGTH-6 2LENGTH-7 1FINGER 1LOCATION-WALLPLANE_SPACE 1LOCATION-FLOORPLANE+1
1LOCATION_HEIGHT 2WIDTH 2DEPTH 2HEAD_NECK 2TORSO 2LIMBS_DIGITS 1COMMA 1FULL_STOP 1SEMICOLON 1COLON
1PARENTHESIS @1DA9B 1FILL_MODIFIER-2 2MODIFIER-3 2MODIFIER-4 2MODIFIER-5 2MODIFIER-6 @1DAA1
1ROTATION_MODIFIER-2 2MODIFIER-3 2MODIFIER-4 2MODIFIER-5 2MODIFIER-6 2MODIFIER-7 2MODIFIER-8
2MODIFIER-9 2MODIFIER-10 2MODIFIER-11 2MODIFIER-12 2MODIFIER-13 2MODIFIER-14 2MODIFIER-15
2MODIFIER-16 @1DF00 0LATIN_SMALL_LETTER_FENG_DIGRAPH_WITH_TRILL 3REVERSED_SCRIPT_G
1LETTER_SMALL_CAPITAL_TURNED+1 1SMALL_LETTER_REVERSED_K 1LETTER_SMALL_CAPITAL_L_WITH_BELT
1SMALL_LETTER_LEZH_WITH_RETROFLEX_HOOK 3TURNED_Y_WITH_BELT 3REVERSED_ENG
3TURNED_R_WITH_LONG_LEG_AND_RETROFLEX_HOOK 3T_WITH_HOOK+3 1LETTER_RETROFLEX_CLICK_WITH+2
1SMALL_LETTER_ESH_WITH_DOUBLE_BAR 7AND_CURL 3TURNED_T_WITH+1 1LETTER_INVERTED_GLOTTAL_STOP+2
2STRETCHED_C+2 2SMALL_CAPITAL_TURNED_K 1SMALL_LETTER_L_WITH_FISHHOOK
3DEZH_DIGRAPH_WITH_PALATAL_HOOK 3L_WITH_BELT_AND+2 3ENG_WITH+2 3TURNED_R+3 3R_WITH_FISHHOOK_AND+2
3TESH_DIGRAPH_WITH+2 3EZH+3 3DEZH_DIGRAPH_WITH_RETROFLEX+1 3I_WITH_STROKE_AND+2 3O_WITH+2
3TESH_DIGRAPH+3 3C+3 3S_WITH_CURL @1E000 0COMBINING_GLAGOLITIC_LETTER_AZU 3BUKY 3VEDE 3GLAGOLI
3DOBRO 3YESTU 3ZHIVETE @1E008 3ZEMLJA 3IZHE 3INITIAL+1 3I 3DJERVI 3KAKO 3LJUDIJE 3MYSLITE 3NASHI
3ONU 3POKOJI 3RITSI 3SLOVO 3TVRIDO 3UKU 3FRITU 3HERU @1E01B 3SHTA 3TSI 3CHRIVI 3SHA 3YERU 3YERI
3YATI @1E023 3YU 3SMALL_YUS @1E026 3YO 3IOTATED_SMALL_YUS 3BIG+1 3IOTATED+2 3FITA @1E100
0NYIAKENG_PUACHUE_HMONG_LETTER_MA 4TSA 4NTA 4TA 4HA 4NA 4XA 4NKA 4CA 4LA 4SA 4ZA 4NCA 4NTSA 4KA 4DA
4NYA 4NRA 4VA 4NTXA 4TXA 4FA 4RA 4QA 4YA 4NQA 4PA 4XYA 4NPA 4DLA 4NPLA 4HAH 4MLA 4PLA 4GA 4RRA 4A
4AA 4I 4U 4O 4OO 4E 4EE 4W @1E130 3TONE-B 3TONE-M 3TONE-J 3TONE-V 3TONE-S 3TONE-G 3TONE-D
3SIGN_FOR_PERSON 5THING 5LOCATION 5ANIMAL 5INVERTEBRATE 4XW_XW 3SYLLABLE_LENGTHENER @1E140
3DIGIT_ZERO 4ONE 4TWO 4THREE 4FOUR 4FIVE 4SIX 4SEVEN 4EIGHT 4NINE @1E14E 3LOGOGRAM_NYAJ 3CIRCLED_CA
@1E290 0TOTO_LETTER_PA 2BA 2TA 2DA 2KA 2GA 2MA 2NA 2NGA 2SA 2CHA 2YA 2WA 2JA 2HA 2RA 2LA 2I
2BREATHY+1 2IU 2BREATHY+1 2U 2E 2BREATHY+1 2EO 2BREATHY+1 2O 2AE 2BREATHY+1 2A 1SIGN_RISING_TONE
@1E2C0 0WANCHO_LETTER_AA 2A 2BA 2CA 2DA 2GA 2YA 2PHA 2LA 2NA 2PA 2TA 2THA 2FA 2SA 2SHA 2JA 2ZA 2WA
2VA 2KA 2O 2AU 2RA 2MA 2KHA 2HA 2E 2I 2NGA 2U 2LLHA 2TSA 2TRA 2ONG 2AANG 2ANG 2ING 2ON 2EN 2AAN
2NYA 2UEN 2YIH 1TONE_TUP 2TUPNI 2KOI 2KOINI 1DIGIT_ZERO 2ONE 2TWO 2THREE 2FOUR 2FIVE 2SIX 2SEVEN
2EIGHT 2NINE @1E2FF 1NGUN_SIGN @1E7E0 0ETHIOPIC_SYLLABLE_HHYA 2HHYU 2HHYI 2HHYAA 2HHYEE 2HHYE 2HHYO
@1E7E8 2GURAGE_HHWA 2HHWI 2HHWEE 2HHWE @1E7ED 2GURAGE_MWI 3MWEE @1E7F0 3QWI 3QWEE 3QWE 3BWI 3BWEE
3KWI 3KWEE 3KWE 3GWI 3GWEE 3GWE 3FWI 3FWEE 3PWI 3PWEE @1E800 0MENDE_KIKAKUI_SYLLABLE_M001_KI
3M002_KA 3M003_KU 3M065_KEE 3M095_KE 3M076_KOO 3M048_KO 3M179_KUA 3M004_WI 3M005_WA 3M006_WU
3M126_WEE 3M118_WE 3M114_WOO 3M045_WO 3M194_WUI 3M143_WEI 3M061_WVI 3M049_WVA 3M139_WVE 3M007_MIN
3M008_MAN 3M009_MUN 3M059_MEN 3M094_MON 3M154_MUAN 3M189_MUEN 3M010_BI 3M011_BA 3M012_BU 3M150_BEE
3M097_BE 3M103_BOO 3M138_BO 3M013_I 3M014_A 3M015_U 3M163_EE 3M100_E 3M165_OO 3M147_O 3M137_EI
3M131_IN 3M135+1 3M195_AN 3M178_EN 3M019_SI 3M020_SA 3M021_SU 3M162_SEE 3M116_SE 3M136_SOO 3M079_SO
3M196_SIA 3M025_LI 3M026_LA 3M027_LU 3M084_LEE 3M073_LE 3M054_LOO 3M153_LO 3M110_LONG_LE 3M016_DI
3M017_DA 3M018_DU 3M089_DEE 3M180_DOO 3M181_DO 3M022_TI 3M023_TA 3M024_TU 3M091_TEE 3M055_TE
3M104_TOO 3M069_TO 3M028_JI 3M029_JA 3M030_JU 3M157_JEE 3M113_JE 3M160_JOO 3M063_JO 3M175_LONG+1
3M031_YI 3M032_YA 3M033_YU 3M109_YEE 3M080_YE 3M141_YOO 3M121_YO 3M034_FI 3M035_FA 3M036_FU
3M078_FEE 3M075_FE 3M133_FOO 3M088_FO 3M197_FUA 3M101_FAN 3M037_NIN 3M038_NAN 3M039_NUN 3M117_NEN
3M169_NON 3M176_HI 3M041_HA 3M186_HU 3M040_HEE 3M096_HE 3M042_HOO 3M140_HO 3M083_HEEI 3M128_HOOU
3M053_HIN 3M130_HAN 3M087_HUN 3M052_HEN 3M193_HON 3M046_HUAN 3M090_NGGI 3M043_NGGA 3M082_NGGU
3M115_NGGEE 3M146_NGGE 3M156_NGGOO 3M120_NGGO 3M159_NGGAA 3M127_NGGUA 3M086_LONG_NGGE
3M106_LONG_NGGOO 3M183_LONG_NGGO 3M155_GI 3M111_GA 3M168_GU 3M190_GEE 3M166_GUEI 3M167_GUAN
3M184_NGEN 3M057_NGON 3M177_NGUAN 3M068_PI 3M099_PA 3M050_PU 3M081_PEE 3M051_PE 3M102_POO 3M066_PO
3M145_MBI 3M062_MBA 3M122_MBU 3M047_MBEE 3M188+1 3M072_MBE 3M172_MBOO 3M174_MBO 3M187_MBUU
3M161_LONG_MBE 3M105_LONG_MBOO 3M142_LONG_MBO 3M132_KPI 3M092_KPA 3M074_KPU 3M044_KPEE 3M108_KPE
3M112_KPOO 3M158_KPO 3M124_GBI 3M056_GBA 3M148_GBU 3M093_GBEE 3M107_GBE 3M071_GBOO 3M070_GBO
3M171_RA 3M123_NDI 3M129_NDA 3M125_NDU 3M191_NDEE 3M119_NDE 3M067_NDOO 3M064_NDO 3M152_NJA
3M192_NJU 3M149_NJEE 3M134_NJOO 3M182_VI 3M185_VA 3M151_VU 3M173_VEE 3M085_VE 3M144_VOO 3M077_VO
3M164_NYIN 3M058_NYAN 3M170_NYUN 3M098_NYEN 3M060_NYON @1E8C7 2DIGIT_ONE 3TWO 3THREE 3FOUR 3FIVE
3SIX 3SEVEN 3EIGHT 3NINE 2COMBINING_NUMBER_TEENS 4TENS 4HUNDREDS 4THOUSANDS 4TEN+1 4HUNDRED+1
4MILLIONS @1E900 0ADLAM_CAPITAL_LETTER_ALIF 3DAALI 3LAAM 3MIIM 3BA 3SINNYIIYHE 3PE 3BHE 3RA 3E 3FA
3I 3O 3DHA 3YHE 3WAW 3NUN 3KAF 3YA 3U 3JIIM 3CHI 3HA 3QAAF 3GA 3NYA 3TU 3NHA 3VA 3KHA 3GBE 3ZAL
3KPO 3SHA 1SMALL_LETTER_ALIF 3DAALI 3LAAM 3MIIM 3BA 3SINNYIIYHE 3PE 3BHE 3RA 3E 3FA 3I 3O 3DHA 3YHE
3WAW 3NUN 3KAF 3YA 3U 3JIIM 3CHI 3HA 3QAAF 3GA 3NYA 3TU 3NHA 3VA 3KHA 3GBE 3ZAL 3KPO 3SHA
1ALIF_LENGTHENER 1VOWEL+1 1GEMINATION_MARK 1HAMZA 1CONSONANT_MODIFIER 1GEMINATE+2 1NUKTA
1NASALIZATION_MARK @1E950 1DIGIT_ZERO 2ONE 2TWO 2THREE 2FOUR 2FIVE 2SIX 2SEVEN 2EIGHT 2NINE @1E95E
1INITIAL_EXCLAMATION_MARK 2QUESTION+1 @1EC71 0INDIC_SIYAQ_NUMBER_ONE 3TWO 3THREE 3FOUR 3FIVE 3SIX
3SEVEN 3EIGHT 3NINE 3TEN 3TWENTY 3THIRTY 3FORTY 3FIFTY 3SIXTY 3SEVENTY 3EIGHTY 3NINETY 3ONE_HUNDRED
3TWO+1 3THREE+1 3FOUR+1 3FIVE+1 3SIX+1 3SEVEN+1 3EIGHT+1 3NINE+1 3ONE_THOUSAND 3TWO+1 3THREE+1
3FOUR+1 3FIVE+1 3SIX+1 3SEVEN+1 3EIGHT+1 3NINE+1 3TEN+1 3TWENTY+1 3THIRTY+1 3FORTY+1 3FIFTY+1
3SIXTY+1 3SEVENTY+1 3EIGHTY+1 3NINETY+1 3LAKH 3LAKHAN 2LAKH_MARK 2NUMBER_KAROR 3KARORAN
3PREFIXED_ONE 4TWO 4THREE 4FOUR 4FIVE 4SIX 4SEVEN 4EIGHT 4NINE 2PLACEHOLDER 2FRACTION_ONE_QUARTER
4HALF 3THREE_QUARTERS 2RUPEE_MARK 2NUMBER_ALTERNATE_ONE 4TWO 4TEN_THOUSAND 2ALTERNATE_LAKH_MARK
@1ED01 0OTTOMAN_SIYAQ_NUMBER_ONE 3TWO 3THREE 3FOUR 3FIVE 3SIX 3SEVEN 3EIGHT 3NINE 3TEN 3TWENTY
3THIRTY 3FORTY 3FIFTY 3SIXTY 3SEVENTY 3EIGHTY 3NINETY 3ONE_HUNDRED 3TWO+1 3THREE+1 3FOUR+1 3FIVE+1
3SIX+1 3SEVEN+1 3EIGHT+1 3NINE+1 3ONE_THOUSAND 3TWO+1 3THREE+1 3FOUR+1 3FIVE+1 3SIX+1 3SEVEN+1
3EIGHT+1 3NINE+1 3TEN+1 3TWENTY+1 3THIRTY+1 3FORTY+1 3FIFTY+1 3SIXTY+1 3SEVENTY+1 3EIGHTY+1
3NINETY+1 2MARRATAN 2ALTERNATE_NUMBER_TWO 4THREE 4FOUR 4FIVE 4SIX 4SEVEN 4EIGHT 4NINE 4TEN
4FOUR_HUNDRED 4SIX+1 4TWO_THOUSAND 4TEN+1 2FRACTION_ONE_HALF 4SIXTH @1EE00
0ARABIC_MATHEMATICAL_ALEF 2BEH 2JEEM 2DAL @1EE05 2WAW 2ZAIN 2HAH 2TAH 2YEH 2KAF 2LAM 2MEEM 2NOON
2SEEN 2AIN 2FEH 2SAD 2QAF 2REH 2SHEEN 2TEH 2THEH 2KHAH 2THAL 2DAD 2ZAH 2GHAIN 2DOTLESS_BEH 3NOON
3FEH 3QAF @1EE21 2INITIAL_BEH 3JEEM @1EE24 3HEH @1EE27 3HAH @1EE29 3YEH 3KAF 3LAM 3MEEM 3NOON 3SEEN
3AIN 3FEH 3SAD 3QAF @1EE34 3SHEEN 3TEH 3THEH 3KHAH @1EE39 3DAD @1EE3B 3GHAIN @1EE42 2TAILED_JEEM
@1EE47 3HAH @1EE49 3YEH @1EE4B 3LAM @1EE4D 3NOON 3SEEN 3AIN @1EE51 3SAD 3QAF @1EE54 3SHEEN @1EE57
3KHAH @1EE59 3DAD @1EE5B 3GHAIN @1EE5D 3DOTLESS_NOON @1EE5F 4QAF @1EE61 2STRETCHED_BEH 3JEEM @1EE64
3HEH @1EE67 3HAH 3TAH 3YEH 3KAF @1EE6C 3MEEM 3NOON 3SEEN 3AIN 3FEH 3SAD 3QAF @1EE74 3SHEEN 3TEH
3THEH 3KHAH @1EE79 3DAD 3ZAH 3GHAIN 3DOTLESS_BEH @1EE7E 4FEH @1EE80 2LOOPED_ALEF 3BEH 3JEEM 3DAL
3HEH 3WAW 3ZAIN 3HAH 3TAH 3YEH @1EE8B 3LAM 3MEEM 3NOON 3SEEN 3AIN 3FEH 3SAD 3QAF 3REH 3SHEEN 3TEH
3THEH 3KHAH 3THAL 3DAD 3ZAH 3GHAIN @1EEA1 2DOUBLE-STRUCK_BEH 3JEEM 3DAL @1EEA5 3WAW 3ZAIN 3HAH 3TAH
3YEH @1EEAB 3LAM 3MEEM 3NOON 3SEEN 3AIN 3FEH 3SAD 3QAF 3REH 3SHEEN 3TEH 3THEH 3KHAH 3THAL 3DAD 3ZAH
3GHAIN @1EEF0 2OPERATOR_MEEM_WITH_HAH_WITH_TATWEEL 3HAH_WITH_DAL @1F000 0MAHJONG_TILE_EAST_WIND
2SOUTH+1 2WEST+1 2NORTH+1 2RED_DRAGON 2GREEN+1 2WHITE+1 2ONE_OF_CHARACTERS 2TWO+2 2THREE+2 2FOUR+2
2FIVE+2 2SIX+2 2SEVEN+2 2EIGHT+2 2NINE+2 2ONE_OF_BAMBOOS 2TWO+2 2THREE+2 2FOUR+2 2FIVE+2 2SIX+2
2SEVEN+2 2EIGHT+2 2NINE+2 2ONE_OF_CIRCLES 2TWO+2 2THREE+2 2FOUR+2 2FIVE+2 2SIX+2 2SEVEN+2 2EIGHT+2
2NINE+2 2PLUM 2ORCHID 2BAMBOO 2CHRYSANTHEMUM 2SPRING 2SUMMER 2AUTUMN 2WINTER 2JOKER 2BACK @1F030
0DOMINO_TILE_HORIZONTAL+1 2HORIZONTAL-00-00 2HORIZONTAL-00-01 2HORIZONTAL-00-02 2HORIZONTAL-00-03
2HORIZONTAL-00-04 2HORIZONTAL-00-05 2HORIZONTAL-00-06 2HORIZONTAL-01-00 2HORIZONTAL-01-01
2HORIZONTAL-01-02 2HORIZONTAL-01-03 2HORIZONTAL-01-04 2HORIZONTAL-01-05 2HORIZONTAL-01-06
2HORIZONTAL-02-00 2HORIZONTAL-02-01 2HORIZONTAL-02-02 2HORIZONTAL-02-03 2HORIZONTAL-02-04
2HORIZONTAL-02-05 2HORIZONTAL-02-06 2HORIZONTAL-03-00 2HORIZONTAL-03-01 2HORIZONTAL-03-02
2HORIZONTAL-03-03 2HORIZONTAL-03-04 2HORIZONTAL-03-05 2HORIZONTAL-03-06 2HORIZONTAL-04-00
2HORIZONTAL-04-01 2HORIZONTAL-04-02 2HORIZONTAL-04-03 2HORIZONTAL-04-04 2HORIZONTAL-04-05
2HORIZONTAL-04-06 2HORIZONTAL-05-00 2HORIZONTAL-05-01 2HORIZONTAL-05-02 2HORIZONTAL-05-03
2HORIZONTAL-05-04 2HORIZONTAL-05-05 2HORIZONTAL-05-06 2HORIZONTAL-06-00 2HORIZONTAL-06-01
2HORIZONTAL-06-02 2HORIZONTAL-06-03 2HORIZONTAL-06-04 2HORIZONTAL-06-05 2HORIZONTAL-06-06
2VERTICAL_BACK 2VERTICAL-00-00 2VERTICAL-00-01 2VERTICAL-00-02 2VERTICAL-00-03 2VERTICAL-00-04
2VERTICAL-00-05 2VERTICAL-00-06 2VERTICAL-01-00 2VERTICAL-01-01 2VERTICAL-01-02 2VERTICAL-01-03
2VERTICAL-01-04 2VERTICAL-01-05 2VERTICAL-01-06 2VERTICAL-02-00 2VERTICAL-02-01 2VERTICAL-02-02
2VERTICAL-02-03 2VERTICAL-02-04 2VERTICAL-02-05 2VERTICAL-02-06 2VERTICAL-03-00 2VERTICAL-03-01
2VERTICAL-03-02 2VERTICAL-03-03 2VERTICAL-03-04 2VERTICAL-03-05 2VERTICAL-03-06 2VERTICAL-04-00
2VERTICAL-04-01 2VERTICAL-04-02 2VERTICAL-04-03 2VERTICAL-04-04 2VERTICAL-04-05 2VERTICAL-04-06
2VERTICAL-05-00 2VERTICAL-05-01 2VERTICAL-05-02 2VERTICAL-05-03 2VERTICAL-05-04 2VERTICAL-05-05
2VERTICAL-05-06 2VERTICAL-06-00 2VERTICAL-06-01 2VERTICAL-06-02 2VERTICAL-06-03 2VERTICAL-06-04
2VERTICAL-06-05 2VERTICAL-06-06 @1F0A0 0PLAYING_CARD_BACK 2ACE_OF_SPADES 2TWO+2 2THREE+2 2FOUR+2
2FIVE+2 2SIX+2 2SEVEN+2 2EIGHT+2 2NINE+2 2TEN+2 2JACK+2 2KNIGHT+2 2QUEEN+2 2KING+2 @1F0B1
2ACE_OF_HEARTS 2TWO+2 2THREE+2 2FOUR+2 2FIVE+2 2SIX+2 2SEVEN+2 2EIGHT+2 2NINE+2 2TEN+2 2JACK+2
2KNIGHT+2 2QUEEN+2 2KING+2 2RED_JOKER @1F0C1 2ACE_OF_DIAMONDS 2TWO+2 2THREE+2 2FOUR+2 2FIVE+2
2SIX+2 2SEVEN+2 2EIGHT+2 2NINE+2 2TEN+2 2JACK+2 2KNIGHT+2 2QUEEN+2 2KING+2 2BLACK_JOKER @1F0D1
2ACE_OF_CLUBS 2TWO+2 2THREE+2 2FOUR+2 2FIVE+2 2SIX+2 2SEVEN+2 2EIGHT+2 2NINE+2 2TEN+2 2JACK+2
2KNIGHT+2 2QUEEN+2 2KING+2 2WHITE_JOKER 2FOOL 2TRUMP-1 2TRUMP-2 2TRUMP-3 2TRUMP-4 2TRUMP-5 2TRUMP-6
2TRUMP-7 2TRUMP-8 2TRUMP-9 2TRUMP-10 2TRUMP-11 2TRUMP-12 2TRUMP-13 2TRUMP-14 2TRUMP-15 2TRUMP-16
2TRUMP-17 2TRUMP-18 2TRUMP-19 2TRUMP-20 2TRUMP-21 @1F100 0DIGIT_ZERO_FULL_STOP 2COMMA 1ONE+1 1TWO+1
1THREE+1 1FOUR+1 1FIVE+1 1SIX+1 1SEVEN+1 1EIGHT+1 1NINE+1 0DINGBAT_CIRCLED_SANS-SERIF_DIGIT_ZERO
1NEGATIVE+4 0CIRCLED_ZERO_WITH_SLASH 1ANTICLOCKWISE_ARROW 1DOLLAR_SIGN_WITH_OVERLAID_BACKSLASH
0PARENTHESIZED_LATIN_CAPITAL_LETTER_A 4B 4C 4D 4E 4F 4G 4H 4I 4J 4K 4L 4M 4N 4O 4P 4Q 4R 4S 4T 4U
4V 4W 4X 4Y 4Z 0TORTOISE_SHELL_BRACKETED_LATIN_CAPITAL_LETTER_S
0CIRCLED_ITALIC_LATIN_CAPITAL_LETTER_C 5R 1CD 1WZ 0COPYLEFT_SYMBOL 0SQUARED_LATIN_CAPITAL_LETTER_A
4B 4C 4D 4E 4F 4G 4H 4I 4J 4K 4L 4M 4N 4O 4P 4Q 4R 4S 4T 4U 4V 4W 4X 4Y 4Z 1HV 1MV 1SD 1SS 1PPV 1WC
0NEGATIVE_CIRCLED_LATIN_CAPITAL_LETTER_A 5B 5C 5D 5E 5F 5G 5H 5I 5J 5K 5L 5M 5N 5O 5P 5Q 5R 5S 5T
5U 5V 5W 5X 5Y 5Z 0RAISED_MC_SIGN 1MD+1 1MR+1 0CIRCLED_CC 1C_WITH_OVERLAID_BACKSLASH 1HUMAN_FIGURE
0NEGATIVE_SQUARED_LATIN_CAPITAL_LETTER_A 5B 5C 5D 5E 5F 5G 5H 5I 5J 5K 5L 5M 5N 5O 5P 5Q 5R 5S 5T
5U 5V 5W 5X 5Y 5Z 0CROSSED_NEGATIVE_SQUARED_LATIN_CAPITAL_LETTER_P 0NEGATIVE_SQUARED_IC 2PA 2SA 2AB
2WC 0SQUARE_DJ 0SQUARED_CL 1COOL 1FREE 1ID 1NEW 1NG 1OK 1SOS 1UP_WITH_EXCLAMATION_MARK 1VS 1THREE_D
1SECOND_SCREEN 1TWO_K 1FOUR+1 1EIGHT+1 1FIVE_POINT_ONE 1SEVEN+2 1TWENTY-TWO_POINT_TWO 1SIXTY_P
1ONE_HUNDRED_TWENTY+1 1LATIN_SMALL_LETTER_D 1HC 1HDR 1HI-RES 1LOSSLESS 1SHV 1UHD 1VOD
0MASK_WORK_SYMBOL @1F1E6 0REGIONAL_INDICATOR_SYMBOL_LETTER_A 4B 4C 4D 4E 4F 4G 4H 4I 4J 4K 4L 4M 4N
4O 4P 4Q 4R 4S 4T 4U 4V 4W 4X 4Y 4Z 0SQUARE_HIRAGANA_HOKA 0SQUARED_KATAKANA_KOKO 2SA @1F210
1CJK_UNIFIED_IDEOGRAPH-624B 3IDEOGRAPH-5B57 3IDEOGRAPH-53CC 1KATAKANA_DE
1CJK_UNIFIED_IDEOGRAPH-4E8C 3IDEOGRAPH-591A 3IDEOGRAPH-89E3 3IDEOGRAPH-5929 3IDEOGRAPH-4EA4
3IDEOGRAPH-6620 3IDEOGRAPH-7121 3IDEOGRAPH-6599 3IDEOGRAPH-524D 3IDEOGRAPH-5F8C 3IDEOGRAPH-518D
3IDEOGRAPH-65B0 3IDEOGRAPH-521D 3IDEOGRAPH-7D42 3IDEOGRAPH-751F 3IDEOGRAPH-8CA9 3IDEOGRAPH-58F0
3IDEOGRAPH-5439 3IDEOGRAPH-6F14 3IDEOGRAPH-6295 3IDEOGRAPH-6355 3IDEOGRAPH-4E00 3IDEOGRAPH-4E09
3IDEOGRAPH-904A 3IDEOGRAPH-5DE6 3IDEOGRAPH-4E2D 3IDEOGRAPH-53F3 3IDEOGRAPH-6307 3IDEOGRAPH-8D70
3IDEOGRAPH-6253 3IDEOGRAPH-7981 3IDEOGRAPH-7A7A 3IDEOGRAPH-5408 3IDEOGRAPH-6E80 3IDEOGRAPH-6709
3IDEOGRAPH-6708 3IDEOGRAPH-7533 3IDEOGRAPH-5272 3IDEOGRAPH-55B6 3IDEOGRAPH-914D @1F240
0TORTOISE_SHELL_BRACKETED_CJK_UNIFIED_IDEOGRAPH-672C 5IDEOGRAPH-4E09 5IDEOGRAPH-4E8C
5IDEOGRAPH-5B89 5IDEOGRAPH-70B9 5IDEOGRAPH-6253 5IDEOGRAPH-76D7 5IDEOGRAPH-52DD 5IDEOGRAPH-6557
@1F250 0CIRCLED_IDEOGRAPH_ADVANTAGE 2ACCEPT @1F260 0ROUNDED_SYMBOL_FOR_FU 3LU 3SHOU 3XI 3SHUANGXI
3CAI @1F300 0CYCLONE 0FOGGY 0CLOSED_UMBRELLA 0NIGHT_WITH_STARS 0SUNRISE_OVER_MOUNTAINS 1
0CITYSCAPE_AT_DUSK 0SUNSET_OVER_BUILDINGS 0RAINBOW 0BRIDGE_AT_NIGHT 0WATER_WAVE 0VOLCANO 0MILKY_WAY
0EARTH_GLOBE_EUROPE-AFRICA 2AMERICAS 2ASIA-AUSTRALIA 0GLOBE_WITH_MERIDIANS 0NEW_MOON_SYMBOL
0WAXING_CRESCENT+2 0FIRST_QUARTER+2 0WAXING_GIBBOUS+2 0FULL+2 0WANING_GIBBOUS+2 0LAST_QUARTER+2
0WANING_CRESCENT+2 0CRESCENT_MOON 0NEW_MOON_WITH_FACE 0FIRST_QUARTER+3 0LAST+4 0FULL+3 0SUN+2
0GLOWING_STAR 0SHOOTING+1 0THERMOMETER 0BLACK_DROPLET 0WHITE_SUN 2WITH_SMALL_CLOUD 2BEHIND+1
4WITH_RAIN 0+3 2SNOW 2LIGHTNING 2TORNADO 0FOG 0WIND_BLOWING_FACE 0HOT_DOG 0TACO 0BURRITO 0CHESTNUT
0SEEDLING 0EVERGREEN_TREE 0DECIDUOUS+1 0PALM+1 0CACTUS 0HOT_PEPPER 0TULIP 0CHERRY_BLOSSOM 0ROSE
0HIBISCUS 0SUNFLOWER 0BLOSSOM 0EAR_OF_MAIZE 2RICE 0HERB 0FOUR_LEAF_CLOVER 0MAPLE_LEAF 0FALLEN+1
0LEAF_FLUTTERING_IN_WIND 0MUSHROOM 0TOMATO 0AUBERGINE 0GRAPES 0MELON 0WATERMELON 0TANGERINE 0LEMON
0BANANA 0PINEAPPLE 0RED_APPLE 0GREEN+1 0PEAR 0PEACH 0CHERRIES 0STRAWBERRY 0HAMBURGER
0SLICE_OF_PIZZA 0MEAT_ON_BONE 0POULTRY_LEG 0RICE_CRACKER 1BALL 0COOKED_RICE 0CURRY_AND+1
0STEAMING_BOWL 0SPAGHETTI 0BREAD 0FRENCH_FRIES 0ROASTED_SWEET_POTATO 0DANGO 0ODEN 0SUSHI
0FRIED_SHRIMP 0FISH_CAKE_WITH_SWIRL_DESIGN 0SOFT_ICE_CREAM 0SHAVED_ICE 0ICE_CREAM 0DOUGHNUT 0COOKIE
0CHOCOLATE_BAR 0CANDY 0LOLLIPOP 0CUSTARD 0HONEY_POT 0SHORTCAKE 0BENTO_BOX 0POT_OF_FOOD 0COOKING
0FORK_AND_KNIFE 0TEACUP_WITHOUT_HANDLE 0SAKE_BOTTLE_AND_CUP 0WINE_GLASS 0COCKTAIL+1 0TROPICAL_DRINK
0BEER_MUG 0CLINKING_BEER_MUGS 0BABY_BOTTLE 0FORK_AND_KNIFE_WITH_PLATE 0BOTTLE_WITH_POPPING_CORK
0POPCORN 0RIBBON 0WRAPPED_PRESENT 0BIRTHDAY_CAKE 0JACK-O-LANTERN 0CHRISTMAS_TREE 0FATHER_CHRISTMAS
0FIREWORKS 0FIREWORK_SPARKLER 0BALLOON 0PARTY_POPPER 0CONFETTI_BALL 0TANABATA_TREE 0CROSSED_FLAGS
0PINE_DECORATION 0JAPANESE_DOLLS 0CARP_STREAMER 0WIND_CHIME 0MOON_VIEWING_CEREMONY 0SCHOOL_SATCHEL
0GRADUATION_CAP 0HEART_WITH_TIP_ON_THE_LEFT 0BOUQUET_OF_FLOWERS 0MILITARY_MEDAL 0REMINDER_RIBBON
0MUSICAL_KEYBOARD_WITH_JACKS 0STUDIO_MICROPHONE 0LEVEL_SLIDER 0CONTROL_KNOBS
0BEAMED_ASCENDING_MUSICAL_NOTES 1DESCENDING+2 0FILM_FRAMES 0ADMISSION_TICKETS 0CAROUSEL_HORSE
0FERRIS_WHEEL 0ROLLER_COASTER 0FISHING_POLE_AND_FISH 0MICROPHONE 0MOVIE_CAMERA 0CINEMA 0HEADPHONE
0ARTIST_PALETTE 0TOP_HAT 0CIRCUS_TENT 0TICKET 0CLAPPER_BOARD 0PERFORMING_ARTS 0VIDEO_GAME
0DIRECT_HIT 0SLOT_MACHINE 0BILLIARDS 0GAME_DIE 0BOWLING 0FLOWER_PLAYING_CARDS 0MUSICAL_NOTE
0MULTIPLE_MUSICAL_NOTES 0SAXOPHONE 0GUITAR 0MUSICAL_KEYBOARD 0TRUMPET 0VIOLIN 0MUSICAL_SCORE
0RUNNING_SHIRT_WITH_SASH 0TENNIS_RACQUET_AND_BALL 0SKI_AND_SKI_BOOT 0BASKETBALL_AND_HOOP
0CHEQUERED_FLAG 0SNOWBOARDER 0RUNNER 0SURFER 0SPORTS_MEDAL 0TROPHY 0HORSE_RACING 0AMERICAN_FOOTBALL
0RUGBY+1 0SWIMMER 0WEIGHT_LIFTER 0GOLFER 0RACING_MOTORCYCLE 1CAR 0CRICKET_BAT_AND_BALL 0VOLLEYBALL
0FIELD_HOCKEY_STICK_AND_BALL 0ICE_HOCKEY_STICK_AND_PUCK 0TABLE_TENNIS_PADDLE_AND_BALL
0SNOW_CAPPED_MOUNTAIN 0CAMPING 0BEACH_WITH_UMBRELLA 0BUILDING_CONSTRUCTION 0HOUSE_BUILDINGS
0CITYSCAPE 0DERELICT_HOUSE_BUILDING 0CLASSICAL+1 0DESERT 1ISLAND 0NATIONAL_PARK 0STADIUM
0HOUSE_BUILDING 1WITH_GARDEN 0OFFICE_BUILDING 0JAPANESE_POST_OFFICE 0EUROPEAN+2 0HOSPITAL 0BANK
0AUTOMATED_TELLER_MACHINE 0HOTEL 0LOVE+1 0CONVENIENCE_STORE 0SCHOOL 0DEPARTMENT_STORE 0FACTORY
0IZAKAYA_LANTERN 0JAPANESE_CASTLE 0EUROPEAN+1 0WHITE_PENNANT 0BLACK+1 0WAVING_WHITE_FLAG 1BLACK+1
0ROSETTE 0BLACK+1 0LABEL 0BADMINTON_RACQUET_AND_SHUTTLECOCK 0BOW_AND_ARROW 0AMPHORA
0EMOJI_MODIFIER_FITZPATRICK_TYPE-1-2 3TYPE-3 3TYPE-4 3TYPE-5 3TYPE-6 0RAT 0MOUSE 0OX 0WATER_BUFFALO
0COW 0TIGER 0LEOPARD 0RABBIT 0CAT 0DRAGON 0CROCODILE 0WHALE 0SNAIL 0SNAKE 0HORSE 0RAM 0GOAT 0SHEEP
0MONKEY 0ROOSTER 0CHICKEN 0DOG 0PIG 0BOAR 0ELEPHANT 0OCTOPUS 0SPIRAL_SHELL 0BUG 0ANT 0HONEYBEE
0LADY_BEETLE 0FISH 0TROPICAL+1 0BLOWFISH 0TURTLE 0HATCHING_CHICK 0BABY+1 0FRONT-FACING+2 0BIRD
0PENGUIN 0KOALA 0POODLE 0DROMEDARY_CAMEL 0BACTRIAN+1 0DOLPHIN 0MOUSE_FACE 0COW+1 0TIGER+1 0RABBIT+1
0CAT+1 0DRAGON+1 0SPOUTING_WHALE 0HORSE_FACE 0MONKEY+1 0DOG+1 0PIG+1 0FROG+1 0HAMSTER+1 0WOLF+1
0BEAR+1 0PANDA+1 0PIG_NOSE 0PAW_PRINTS 0CHIPMUNK 0EYES 0EYE 0EAR 0NOSE 0MOUTH 0TONGUE
0WHITE_UP_POINTING_BACKHAND_INDEX 1DOWN+3 1LEFT+3 1RIGHT+3 0FISTED_HAND_SIGN 0WAVING+2 0OK+2
0THUMBS_UP+1 1DOWN+1 0CLAPPING_HANDS+1 0OPEN+2 0CROWN 0WOMANS_HAT 0EYEGLASSES 0NECKTIE 0T-SHIRT
0JEANS 0DRESS 0KIMONO 0BIKINI 0WOMANS_CLOTHES 0PURSE 0HANDBAG 0POUCH 0MANS_SHOE 0ATHLETIC+1
0HIGH-HEELED+1 0WOMANS_SANDAL 1BOOTS 0FOOTPRINTS 0BUST_IN_SILHOUETTE 0BUSTS+2 0BOY 0GIRL 0MAN
0WOMAN 0FAMILY 0MAN_AND_WOMAN_HOLDING_HANDS 0TWO_MEN+2 1WOMEN+2 0POLICE_OFFICER
0WOMAN_WITH_BUNNY_EARS 0BRIDE_WITH_VEIL 0PERSON_WITH_BLOND_HAIR 0MAN_WITH_GUA_PI_MAO 2TURBAN
0OLDER_MAN 1WOMAN 0BABY 0CONSTRUCTION_WORKER 0PRINCESS 0JAPANESE_OGRE 1GOBLIN 0GHOST 0BABY_ANGEL
0EXTRATERRESTRIAL_ALIEN 0ALIEN_MONSTER 0IMP 0SKULL 0INFORMATION_DESK_PERSON 0GUARDSMAN 0DANCER
0LIPSTICK 0NAIL_POLISH 0FACE_MASSAGE 0HAIRCUT 0BARBER_POLE 0SYRINGE 0PILL 0KISS_MARK 0LOVE_LETTER
0RING 0GEM_STONE 0KISS 0BOUQUET 0COUPLE_WITH_HEART 0WEDDING 0BEATING_HEART 0BROKEN+1 0TWO_HEARTS
0SPARKLING_HEART 0GROWING+1 0HEART_WITH_ARROW 0BLUE_HEART 0GREEN+1 0YELLOW+1 0PURPLE+1
0HEART_WITH_RIBBON 0REVOLVING_HEARTS 0HEART_DECORATION 0DIAMOND_SHAPE_WITH_A_DOT_INSIDE
0ELECTRIC_LIGHT_BULB 0ANGER_SYMBOL 0BOMB 0SLEEPING_SYMBOL 0COLLISION+1 0SPLASHING_SWEAT+1 0DROPLET
0DASH_SYMBOL 0PILE_OF_POO 0FLEXED_BICEPS 0DIZZY_SYMBOL 0SPEECH_BALLOON 0THOUGHT+1 0WHITE_FLOWER
0HUNDRED_POINTS_SYMBOL 0MONEY_BAG 0CURRENCY_EXCHANGE 0HEAVY_DOLLAR_SIGN 0CREDIT_CARD
0BANKNOTE_WITH_YEN_SIGN 2DOLLAR+1 2EURO+1 2POUND+1 0MONEY_WITH_WINGS
0CHART_WITH_UPWARDS_TREND_AND_YEN_SIGN 0SEAT 0PERSONAL_COMPUTER 0BRIEFCASE 0MINIDISC 0FLOPPY_DISK
0OPTICAL_DISC 0DVD 0FILE_FOLDER 0OPEN+2 0PAGE_WITH_CURL 1FACING_UP 0CALENDAR 0TEAR-OFF+1
0CARD_INDEX 0CHART_WITH_UPWARDS_TREND 2DOWNWARDS+1 0BAR_CHART 0CLIPBOARD 0PUSHPIN 0ROUND+1
0PAPERCLIP 0STRAIGHT_RULER 0TRIANGULAR+1 0BOOKMARK_TABS 0LEDGER 0NOTEBOOK 1WITH_DECORATIVE_COVER
0CLOSED_BOOK 0OPEN+1 0GREEN+1 0BLUE+1 0ORANGE+1 0BOOKS 0NAME_BADGE 0SCROLL 0MEMO
0TELEPHONE_RECEIVER 0PAGER 0FAX_MACHINE 0SATELLITE_ANTENNA 0PUBLIC_ADDRESS_LOUDSPEAKER
0CHEERING_MEGAPHONE 0OUTBOX_TRAY 0INBOX+1 0PACKAGE 0E-MAIL_SYMBOL 0INCOMING_ENVELOPE
0ENVELOPE_WITH_DOWNWARDS_ARROW_ABOVE 0CLOSED_MAILBOX_WITH_LOWERED_FLAG 3RAISED+1 0OPEN+4 3LOWERED+1
0POSTBOX 0POSTAL_HORN 0NEWSPAPER 0MOBILE_PHONE 2WITH_RIGHTWARDS_ARROW_AT_LEFT 0VIBRATION_MODE
0MOBILE_PHONE_OFF 0NO_MOBILE_PHONES 0ANTENNA_WITH_BARS 0CAMERA 1WITH_FLASH 0VIDEO_CAMERA
0TELEVISION 0RADIO 0VIDEOCASSETTE 0FILM_PROJECTOR 0PORTABLE_STEREO 0PRAYER_BEADS
0TWISTED_RIGHTWARDS_ARROWS 0CLOCKWISE_RIGHTWARDS_AND_LEFTWARDS_OPEN_CIRCLE+1
7WITH_CIRCLED_ONE_OVERLAY 1DOWNWARDS_AND_UPWARDS_OPEN_CIRCLE_ARROWS 0ANTICLOCKWISE+6
0LOW_BRIGHTNESS_SYMBOL 0HIGH+2 0SPEAKER_WITH_CANCELLATION_STROKE 1 1WITH_ONE_SOUND_WAVE
2THREE_SOUND_WAVES 0BATTERY 0ELECTRIC_PLUG 0LEFT-POINTING_MAGNIFYING_GLASS 0RIGHT-POINTING+2
0LOCK_WITH_INK_PEN 0CLOSED_LOCK_WITH_KEY 0+1 0LOCK 0OPEN+1 0BELL 1WITH_CANCELLATION_STROKE
0BOOKMARK 0LINK_SYMBOL 0RADIO_BUTTON 0BACK_WITH_LEFTWARDS_ARROW_ABOVE 0END+4
0ON_WITH_EXCLAMATION_MARK_WITH_LEFT_RIGHT+2 0SOON_WITH_RIGHTWARDS+2 0TOP_WITH_UPWARDS+2
0NO_ONE_UNDER_EIGHTEEN_SYMBOL 0KEYCAP_TEN 0INPUT_SYMBOL_FOR_LATIN_CAPITAL_LETTERS 4SMALL+1 3NUMBERS
3SYMBOLS 3LATIN_LETTERS 0FIRE 0ELECTRIC_TORCH 0WRENCH 0HAMMER 0NUT_AND_BOLT 0HOCHO 0PISTOL
0MICROSCOPE 0TELESCOPE 0CRYSTAL_BALL 0SIX_POINTED_STAR_WITH_MIDDLE_DOT
0JAPANESE_SYMBOL_FOR_BEGINNER 0TRIDENT_EMBLEM 0BLACK_SQUARE_BUTTON 0WHITE+2 0LARGE_RED_CIRCLE
1BLUE+1 1ORANGE_DIAMOND 1BLUE+1 0SMALL_ORANGE+1 1BLUE+1 0UP-POINTING_RED_TRIANGLE 0DOWN-POINTING+2
0UP-POINTING_SMALL+2 0DOWN-POINTING+3 0LOWER_RIGHT_SHADOWED_WHITE_CIRCLE 0UPPER+4
0CIRCLED_CROSS_POMMEE 0CROSS_POMMEE_WITH_HALF-CIRCLE_BELOW 2
0NOTCHED_LEFT_SEMICIRCLE_WITH_THREE_DOTS 1RIGHT+4 0SYMBOL_FOR_MARKS_CHAPTER 0WHITE_LATIN_CROSS
0HEAVY+2 0CELTIC+1 0OM_SYMBOL 0DOVE_OF_PEACE 0KAABA 0MOSQUE 0SYNAGOGUE 0MENORAH_WITH_NINE_BRANCHES
0BOWL_OF_HYGIEIA 0CLOCK_FACE_ONE_OCLOCK 2TWO+1 2THREE+1 2FOUR+1 2FIVE+1 2SIX+1 2SEVEN+1 2EIGHT+1
2NINE+1 2TEN+1 2ELEVEN+1 2TWELVE+1 2ONE-THIRTY 2TWO-THIRTY 2THREE-THIRTY 2FOUR-THIRTY 2FIVE-THIRTY
2SIX-THIRTY 2SEVEN-THIRTY 2EIGHT-THIRTY 2NINE-THIRTY 2TEN-THIRTY 2ELEVEN-THIRTY 2TWELVE-THIRTY
0RIGHT_SPEAKER 2WITH_ONE_SOUND_WAVE 3THREE_SOUND_WAVES 0BULLHORN 1WITH_SOUND_WAVES 0RINGING_BELL
0BOOK 0CANDLE 0MANTELPIECE_CLOCK 0BLACK_SKULL_AND_CROSSBONES 0NO_PIRACY 0HOLE
0MAN_IN_BUSINESS_SUIT_LEVITATING 0SLEUTH_OR_SPY 0DARK_SUNGLASSES 0SPIDER 1WEB 0JOYSTICK
0MAN_DANCING 0LEFT_HAND_TELEPHONE_RECEIVER 0TELEPHONE_RECEIVER_WITH_PAGE
0RIGHT_HAND_TELEPHONE_RECEIVER 0WHITE_TOUCHTONE_TELEPHONE 0BLACK+2 0TELEPHONE_ON_TOP_OF_MODEM
0CLAMSHELL_MOBILE_PHONE 0BACK_OF_ENVELOPE 0STAMPED+1 0ENVELOPE_WITH_LIGHTNING 0FLYING_ENVELOPE
0PEN_OVER_STAMPED+1 0LINKED_PAPERCLIPS 0BLACK_PUSHPIN 0LOWER_LEFT_PENCIL 2BALLPOINT_PEN 2FOUNTAIN+1
2PAINTBRUSH 2CRAYON 0LEFT_WRITING_HAND 0TURNED_OK_HAND_SIGN 0RAISED_HAND_WITH_FINGERS_SPLAYED
0REVERSED+5 1THUMBS_UP_SIGN 2DOWN+1 1VICTORY_HAND 1HAND_WITH_MIDDLE_FINGER_EXTENDED
0RAISED_HAND_WITH_PART_BETWEEN_MIDDLE_AND_RING_FINGERS 0WHITE_DOWN_POINTING_LEFT_HAND_INDEX
0SIDEWAYS_WHITE_LEFT_POINTING+1 2RIGHT+2 1BLACK_LEFT+2 2RIGHT+2 0BLACK_LEFT_POINTING_BACKHAND+1
1RIGHT+3 0SIDEWAYS_WHITE_UP_POINTING+1 2DOWN+2 1BLACK_UP+2 2DOWN+2 0BLACK_UP_POINTING_BACKHAND+1
1DOWN+3 1HEART 0DESKTOP_COMPUTER 0KEYBOARD_AND_MOUSE 0THREE_NETWORKED_COMPUTERS 0PRINTER
0POCKET_CALCULATOR 0BLACK_HARD_SHELL_FLOPPY_DISK 0WHITE+4 0SOFT+3 0TAPE_CARTRIDGE 0WIRED_KEYBOARD
0ONE_BUTTON_MOUSE 0TWO+2 0THREE+2 0TRACKBALL 0OLD_PERSONAL_COMPUTER 0HARD_DISK 0SCREEN
0PRINTER_ICON 0FAX+1 0OPTICAL_DISC+1 0DOCUMENT_WITH_TEXT 3AND_PICTURE 2+1 0FRAME+2 2TILES 2AN_X
0BLACK_FOLDER 0+1 0OPEN+1 0CARD_INDEX_DIVIDERS 1FILE_BOX 0FILE_CABINET 0EMPTY_NOTE 2PAGE 2PAD 0NOTE
1PAGE 1PAD 0EMPTY_DOCUMENT 1PAGE 1PAGES 0DOCUMENT 0PAGE 0PAGES 0WASTEBASKET 0SPIRAL_NOTE_PAD
1CALENDAR+1 0DESKTOP_WINDOW 0MINIMIZE 0MAXIMIZE 0OVERLAP
0CLOCKWISE_RIGHT_AND_LEFT_SEMICIRCLE_ARROWS 0CANCELLATION_X 0INCREASE_FONT_SIZE_SYMBOL 0DECREASE+3
0COMPRESSION 0OLD_KEY 0ROLLED-UP_NEWSPAPER 0PAGE_WITH_CIRCLED_TEXT 0STOCK_CHART 0DAGGER_KNIFE 0LIPS
0SPEAKING_HEAD_IN_SILHOUETTE 0THREE_RAYS_ABOVE 2BELOW 2LEFT 2RIGHT 0LEFT_SPEECH_BUBBLE 0RIGHT+2
0TWO_SPEECH_BUBBLES 0THREE+2 0LEFT_THOUGHT_BUBBLE 0RIGHT+2 0LEFT_ANGER+1 0RIGHT+2 0MOOD+1
0LIGHTNING+2 2 0BALLOT_BOX_WITH_BALLOT 1SCRIPT_X 1BOX_WITH+2 1BOLD+2 1BOX_WITH+3 0LIGHT_CHECK_MARK
0BALLOT_BOX_WITH_BOLD_CHECK 0WORLD_MAP 0MOUNT_FUJI 0TOKYO_TOWER 0STATUE_OF_LIBERTY
0SILHOUETTE_OF_JAPAN 0MOYAI 0GRINNING_FACE 2WITH_SMILING_EYES 0FACE_WITH_TEARS_OF_JOY
0SMILING_FACE_WITH_OPEN_MOUTH 5AND_SMILING_EYES 6COLD_SWEAT 6TIGHTLY-CLOSED_EYES 3HALO 3HORNS
0WINKING_FACE 0SMILING_FACE_WITH_SMILING_EYES 0FACE_SAVOURING_DELICIOUS_FOOD 0RELIEVED_FACE
0SMILING_FACE_WITH_HEART-SHAPED_EYES 3SUNGLASSES 0SMIRKING_FACE 0NEUTRAL+1 0EXPRESSIONLESS+1
0UNAMUSED+1 0FACE_WITH_COLD_SWEAT 0PENSIVE_FACE 0CONFUSED+1 0CONFOUNDED+1 0KISSING+1
0FACE_THROWING_A_KISS 0KISSING_FACE_WITH_SMILING_EYES 3CLOSED+1 0FACE_WITH_STUCK-OUT_TONGUE
4AND_WINKING_EYE 5TIGHTLY-CLOSED_EYES 0DISAPPOINTED_FACE 0WORRIED+1 0ANGRY+1 0POUTING+1 0CRYING+1
0PERSEVERING+1 0FACE_WITH_LOOK_OF_TRIUMPH 0DISAPPOINTED_BUT_RELIEVED_FACE
0FROWNING_FACE_WITH_OPEN_MOUTH 0ANGUISHED_FACE 0FEARFUL+1 0WEARY+1 0SLEEPY+1 0TIRED+1 0GRIMACING+1
0LOUDLY_CRYING+1 0FACE_WITH_OPEN_MOUTH 0HUSHED_FACE 0FACE_WITH_OPEN_MOUTH_AND_COLD_SWEAT
1SCREAMING_IN_FEAR 0ASTONISHED_FACE 0FLUSHED+1 0SLEEPING+1 0DIZZY+1 0FACE_WITHOUT_MOUTH
1WITH_MEDICAL_MASK 0GRINNING_CAT_FACE_WITH_SMILING_EYES 0CAT_FACE_WITH_TEARS_OF_JOY
0SMILING_CAT_FACE_WITH_OPEN_MOUTH 4HEART-SHAPED_EYES 0CAT_FACE_WITH_WRY_SMILE
0KISSING_CAT_FACE_WITH_CLOSED_EYES 0POUTING_CAT_FACE 0CRYING+2 0WEARY+2 0SLIGHTLY_FROWNING+1
1SMILING+1 0UPSIDE-DOWN+1 0FACE_WITH_ROLLING_EYES 2NO_GOOD_GESTURE 2OK+1 0PERSON_BOWING_DEEPLY
0SEE-NO-EVIL_MONKEY 0HEAR-NO-EVIL+1 0SPEAK-NO-EVIL+1 0HAPPY_PERSON_RAISING_ONE_HAND
0PERSON_RAISING_BOTH_HANDS_IN_CELEBRATION 1FROWNING 1WITH_POUTING_FACE 2FOLDED_HANDS
0NORTH_WEST_POINTING_LEAF 0SOUTH+3 0NORTH_EAST+2 0SOUTH+3 0TURNED_NORTH_WEST+2 1SOUTH+3
1NORTH_EAST+2 1SOUTH+3 0NORTH_WEST_POINTING_VINE+1 0SOUTH+4 0NORTH_EAST+3 0SOUTH+4
0HEAVY_NORTH_WEST+3 1SOUTH+4 1NORTH_EAST+3 1SOUTH+4 0NORTH_WEST_POINTING_BUD 0SOUTH+3 0NORTH_EAST+2
0SOUTH+3 0HEAVY_NORTH_WEST+2 1SOUTH+3 1NORTH_EAST+2 1SOUTH+3 0HOLLOW_QUILT_SQUARE_ORNAMENT
4IN_BLACK_SQUARE 0SOLID_QUILT_SQUARE_ORNAMENT 4IN_BLACK_SQUARE 0LEFTWARDS_ROCKET 0UPWARDS+1
0RIGHTWARDS+1 0DOWNWARDS+1 0SCRIPT_LIGATURE_ET_ORNAMENT 0HEAVY+4 0LIGATURE_OPEN+2 0HEAVY+4
1AMPERSAND+1 0SWASH+2 0SANS-SERIF_HEAVY_DOUBLE_TURNED_COMMA_QUOTATION_MARK+1 3+4 2LOW+5
0HEAVY_INTERROBANG+1 0SANS-SERIF+2 0HEAVY+3 0VERY_HEAVY_SOLIDUS 2REVERSE+1 0CHECKER_BOARD
0REVERSE+2 0ROCKET 0HELICOPTER 0STEAM_LOCOMOTIVE 0RAILWAY_CAR 0HIGH-SPEED_TRAIN 2WITH_BULLET_NOSE
0TRAIN 0METRO 0LIGHT_RAIL 0STATION 0TRAM 1CAR 0BUS 0ONCOMING+1 0TROLLEYBUS 0BUS_STOP 0MINIBUS
0AMBULANCE 0FIRE_ENGINE 0POLICE_CAR 0ONCOMING+2 0TAXI 0ONCOMING+1 0AUTOMOBILE 0ONCOMING+1
0RECREATIONAL_VEHICLE 0DELIVERY_TRUCK 0ARTICULATED_LORRY 0TRACTOR 0MONORAIL 0MOUNTAIN_RAILWAY
0SUSPENSION+1 0MOUNTAIN_CABLEWAY 0AERIAL_TRAMWAY 0SHIP 0ROWBOAT 0SPEEDBOAT
0HORIZONTAL_TRAFFIC_LIGHT 0VERTICAL+2 0CONSTRUCTION_SIGN 0POLICE_CARS_REVOLVING_LIGHT
0TRIANGULAR_FLAG_ON_POST 0DOOR 0NO_ENTRY_SIGN 0SMOKING_SYMBOL 0NO+2 0PUT_LITTER_IN_ITS_PLACE+1
0DO_NOT_LITTER+1 0POTABLE_WATER+1 0NON-POTABLE+2 0BICYCLE 0NO_BICYCLES 0BICYCLIST 0MOUNTAIN+1
0PEDESTRIAN 0NO_PEDESTRIANS 0CHILDREN_CROSSING 0MENS_SYMBOL 0WOMENS+1 0RESTROOM 0BABY_SYMBOL
0TOILET 0WATER_CLOSET 0SHOWER 0BATH 0BATHTUB 0PASSPORT_CONTROL 0CUSTOMS 0BAGGAGE_CLAIM
0LEFT_LUGGAGE 0TRIANGLE_WITH_ROUNDED_CORNERS 0PROHIBITED_SIGN 0CIRCLED_INFORMATION_SOURCE
0BOYS_SYMBOL 0GIRLS+1 0COUCH_AND_LAMP 0SLEEPING_ACCOMMODATION 0SHOPPING_BAGS 0BELLHOP_BELL 0BED
0PLACE_OF_WORSHIP 0OCTAGONAL_SIGN 0SHOPPING_TROLLEY 0STUPA 0PAGODA 0HINDU_TEMPLE 0HUT 0ELEVATOR
@1F6DD 0PLAYGROUND_SLIDE 0WHEEL 0RING_BUOY 0HAMMER_AND_WRENCH 0SHIELD 0OIL_DRUM 0MOTORWAY
0RAILWAY_TRACK 0MOTOR_BOAT 0UP-POINTING_MILITARY_AIRPLANE 1+1 1SMALL+1 0+2 0NORTHEAST-POINTING+1
0AIRPLANE_DEPARTURE 1ARRIVING @1F6F0 0SATELLITE 0ONCOMING_FIRE_ENGINE 0DIESEL_LOCOMOTIVE
0PASSENGER_SHIP 0SCOOTER 0MOTOR+1 0CANOE 0SLED 0FLYING_SAUCER 0SKATEBOARD 0AUTO_RICKSHAW
0PICKUP_TRUCK 0ROLLER_SKATE @1F700 0ALCHEMICAL_SYMBOL_FOR_QUINTESSENCE 3AIR 3FIRE 3EARTH 3WATER
3AQUAFORTIS 3AQUA_REGIA 4REGIA-2 4VITAE 4VITAE-2 3VINEGAR 3VINEGAR-2 3VINEGAR-3 3SULFUR
3PHILOSOPHERS+1 3BLACK+1 3MERCURY_SUBLIMATE 4SUBLIMATE-2 4SUBLIMATE-3 3CINNABAR 3SALT 3NITRE
3VITRIOL 3VITRIOL-2 3ROCK_SALT 4SALT-2 3GOLD 3SILVER 3IRON_ORE 4ORE-2 3CROCUS_OF_IRON 3REGULUS+2
3COPPER_ORE 3IRON-COPPER+1 3SUBLIMATE_OF_COPPER 3CROCUS+2 5COPPER-2 3COPPER_ANTIMONIATE 3SALT_OF+2
3SUBLIMATE_OF_SALT_OF_COPPER 3VERDIGRIS 3TIN_ORE 3LEAD+1 3ANTIMONY+1 3SUBLIMATE_OF_ANTIMONY 3SALT+2
3SUBLIMATE_OF+3 3VINEGAR+2 3REGULUS+2 5ANTIMONY-2 4 3REGULUS-2 3REGULUS-3 3REGULUS-4 3ALKALI
3ALKALI-2 3MARCASITE 3SAL-AMMONIAC 3ARSENIC 3REALGAR 3REALGAR-2 3AURIPIGMENT 3BISMUTH_ORE 3TARTAR
3TARTAR-2 3QUICK_LIME 3BORAX 3BORAX-2 3BORAX-3 3ALUM 3OIL 3SPIRIT 3TINCTURE 3GUM 3WAX 3POWDER 3CALX
3TUTTY 3CAPUT_MORTUUM 3SCEPTER_OF_JOVE 3CADUCEUS 3TRIDENT 3STARRED+1 3LODESTONE 3SOAP 3URINE
3HORSE_DUNG 3ASHES 3POT+1 3BRICK 3POWDERED+1 3AMALGAM 3STRATUM_SUPER_STRATUM 5STRATUM-2
3SUBLIMATION 3PRECIPITATE 3DISTILL 3DISSOLVE 3DISSOLVE-2 3PURIFY 3PUTREFACTION 3CRUCIBLE
3CRUCIBLE-2 3CRUCIBLE-3 3CRUCIBLE-4 3CRUCIBLE-5 3ALEMBIC 3BATH_OF_MARY 5VAPOURS 3RETORT 3HOUR
3NIGHT 3DAY-NIGHT 3MONTH 3HALF_DRAM 4OUNCE @1F780 0BLACK_LEFT-POINTING_ISOSCELES_RIGHT_TRIANGLE
1UP-POINTING+3 1RIGHT-POINTING+3 1DOWN-POINTING+3 1SLIGHTLY_SMALL_CIRCLE 0MEDIUM_BOLD_WHITE+1 0+3
0HEAVY+2 0VERY+3 0EXTREMELY+3 0WHITE_CIRCLE_CONTAINING_BLACK_SMALL+1 0ROUND_TARGET
0BLACK_TINY_SQUARE 1SLIGHTLY_SMALL+1 0LIGHT_WHITE+1 0MEDIUM+2 0BOLD+2 0HEAVY+2 0VERY+3 0EXTREMELY+3
0WHITE_SQUARE_CONTAINING_BLACK_VERY_SMALL+1 4MEDIUM+1 0SQUARE_TARGET 0BLACK_TINY_DIAMOND
1VERY_SMALL+1 1MEDIUM+2 0WHITE_DIAMOND_CONTAINING_BLACK_VERY+2 4MEDIUM+1 0DIAMOND_TARGET
0BLACK_TINY_LOZENGE 1VERY_SMALL+1 1MEDIUM+2 0WHITE_LOZENGE_CONTAINING_BLACK+2 0THIN_GREEK_CROSS
0LIGHT+2 0MEDIUM+2 0BOLD+2 0VERY+3 1HEAVY+2 0EXTREMELY+3 0THIN_SALTIRE 0LIGHT+1 0MEDIUM+1 0BOLD+1
0HEAVY+1 0VERY+2 0EXTREMELY+2 0LIGHT_FIVE_SPOKED_ASTERISK 0MEDIUM+3 0BOLD+3 0HEAVY+3 0VERY+4
0EXTREMELY+4 0LIGHT_SIX+2 0MEDIUM+3 0BOLD+3 0HEAVY+3 0VERY+4 0EXTREMELY+4 0LIGHT_EIGHT+2 0MEDIUM+3
0BOLD+3 0HEAVY+3 0VERY+4 0LIGHT_THREE_POINTED_BLACK_STAR 0MEDIUM+4 0+4
0MEDIUM_THREE_POINTED_PINWHEEL+1 0LIGHT_FOUR_POINTED_BLACK+1 0MEDIUM+4 0+4
0MEDIUM_FOUR_POINTED_PINWHEEL+1 0REVERSE_LIGHT+4 0LIGHT_FIVE_POINTED_BLACK+1 0HEAVY+4 0MEDIUM_SIX+3
0HEAVY+4 0SIX_POINTED_PINWHEEL+1 0MEDIUM_EIGHT_POINTED_BLACK+1 0HEAVY+4 0VERY+5
0HEAVY_EIGHT_POINTED_PINWHEEL+1 0LIGHT_TWELVE_POINTED_BLACK+1 0HEAVY+4 3PINWHEEL+1
0CIRCLED_TRIANGLE 0NEGATIVE+2 0CIRCLED_SQUARE 0NEGATIVE+2 @1F7E0 0LARGE_ORANGE_CIRCLE 1YELLOW+1
1GREEN+1 1PURPLE+1 1BROWN+1 1RED_SQUARE 1BLUE+1 1ORANGE+1 1YELLOW+1 1GREEN+1 1PURPLE+1 1BROWN+1
@1F7F0 0HEAVY_EQUALS_SIGN @1F800 0LEFTWARDS_ARROW_WITH_SMALL_TRIANGLE_ARROWHEAD 0UPWARDS+5
0RIGHTWARDS+5 0DOWNWARDS+5 0LEFTWARDS_ARROW_WITH_MEDIUM+2 0UPWARDS+5 0RIGHTWARDS+5 0DOWNWARDS+5
0LEFTWARDS_ARROW_WITH_LARGE+2 0UPWARDS+5 0RIGHTWARDS+5 0DOWNWARDS+5 @1F810
0LEFTWARDS_ARROW_WITH_SMALL_EQUILATERAL+1 0UPWARDS+5 0RIGHTWARDS+5 0DOWNWARDS+5
0LEFTWARDS_ARROW_WITH+2 0UPWARDS+4 0RIGHTWARDS+4 0DOWNWARDS+4 0HEAVY_LEFTWARDS+4 1UPWARDS+4
1RIGHTWARDS+4 1DOWNWARDS+4 1LEFTWARDS_ARROW_WITH_LARGE+2 1UPWARDS+5 1RIGHTWARDS+5 1DOWNWARDS+5
0LEFTWARDS_TRIANGLE-HEADED_ARROW_WITH_NARROW_SHAFT 0UPWARDS+5 0RIGHTWARDS+5 0DOWNWARDS+5
0LEFTWARDS_TRIANGLE-HEADED_ARROW_WITH_MEDIUM+1 0UPWARDS+5 0RIGHTWARDS+5 0DOWNWARDS+5
0LEFTWARDS_TRIANGLE-HEADED_ARROW_WITH_BOLD+1 0UPWARDS+5 0RIGHTWARDS+5 0DOWNWARDS+5
0LEFTWARDS_TRIANGLE-HEADED_ARROW_WITH_HEAVY+1 0UPWARDS+5 0RIGHTWARDS+5 0DOWNWARDS+5
0LEFTWARDS_TRIANGLE-HEADED_ARROW_WITH_VERY+2 0UPWARDS+6 0RIGHTWARDS+6 0DOWNWARDS+6
0LEFTWARDS_FINGER-POST_ARROW 0UPWARDS+2 0RIGHTWARDS+2 0DOWNWARDS+2 0LEFTWARDS_SQUARED+1 0UPWARDS+2
0RIGHTWARDS+2 0DOWNWARDS+2 0LEFTWARDS_COMPRESSED+1 0UPWARDS+2 0RIGHTWARDS+2 0DOWNWARDS+2
0LEFTWARDS_HEAVY+2 0UPWARDS+3 0RIGHTWARDS+3 0DOWNWARDS+3 0LEFTWARDS_HEAVY+1 0UPWARDS+2
0RIGHTWARDS+2 0DOWNWARDS+2 @1F850 0LEFTWARDS_SANS-SERIF+1 0UPWARDS+2 0RIGHTWARDS+2 0DOWNWARDS+2
0NORTH_WEST+2 1EAST+2 0SOUTH+3 1WEST+2 0LEFT_RIGHT+2 0UP_DOWN+2 @1F860
0WIDE-HEADED_LEFTWARDS_LIGHT_BARB+1 1UPWARDS+3 1RIGHTWARDS+3 1DOWNWARDS+3 1NORTH_WEST+3 2EAST+3
1SOUTH+4 2WEST+3 1LEFTWARDS+2 1UPWARDS+2 1RIGHTWARDS+2 1DOWNWARDS+2 1NORTH_WEST+2 2EAST+2 1SOUTH+3
2WEST+2 1LEFTWARDS_MEDIUM+2 1UPWARDS+3 1RIGHTWARDS+3 1DOWNWARDS+3 1NORTH_WEST+3 2EAST+3 1SOUTH+4
2WEST+3 1LEFTWARDS_HEAVY+2 1UPWARDS+3 1RIGHTWARDS+3 1DOWNWARDS+3 1NORTH_WEST+3 2EAST+3 1SOUTH+4
2WEST+3 1LEFTWARDS_VERY+3 1UPWARDS+4 1RIGHTWARDS+4 1DOWNWARDS+4 1NORTH_WEST+4 2EAST+4 1SOUTH+5
2WEST+4 @1F890 0LEFTWARDS_TRIANGLE_ARROWHEAD 0UPWARDS+2 0RIGHTWARDS+2 0DOWNWARDS+2
0LEFTWARDS_WHITE_ARROW_WITHIN+2 0UPWARDS+5 0RIGHTWARDS+5 0DOWNWARDS+5
0LEFTWARDS_ARROW_WITH_NOTCHED_TAIL 0UPWARDS+4 0RIGHTWARDS+4 0DOWNWARDS+4
0HEAVY_ARROW_SHAFT_WIDTH_ONE 4TWO_THIRDS 4ONE_HALF 5THIRD 0LEFTWARDS_BOTTOM-SHADED_WHITE_ARROW
0RIGHTWARDS_BOTTOM_SHADED+2 0LEFTWARDS_TOP+3 0RIGHTWARDS+4 0LEFTWARDS_LEFT-SHADED+2
0RIGHTWARDS_RIGHT-SHADED+2 0LEFTWARDS+3 0RIGHTWARDS_LEFT-SHADED+2 0LEFTWARDS_BACK-TILTED_SHADOWED+2
0RIGHTWARDS+4 0LEFTWARDS_FRONT-TILTED+3 0RIGHTWARDS+4 0WHITE_ARROW_SHAFT_WIDTH_ONE 4TWO_THIRDS
@1F8B0 0ARROW_POINTING_UPWARDS_THEN_NORTH_WEST 2RIGHTWARDS_THEN_CURVING_SOUTH+1 @1F900
0CIRCLED_CROSS_FORMEE_WITH_FOUR_DOTS 4TWO+1 3 0LEFT_HALF_CIRCLE_WITH_FOUR_DOTS 4THREE+1 4TWO+1 4DOT
3 0DOWNWARD_FACING_HOOK 2NOTCHED+1 2HOOK_WITH_DOT 2NOTCHED+3 0PINCHED_FINGERS 0WHITE_HEART 0BROWN+1
0PINCHING_HAND 0ZIPPER-MOUTH_FACE 0MONEY-MOUTH+1 0FACE_WITH_THERMOMETER 0NERD_FACE 0THINKING+1
0FACE_WITH_HEAD-BANDAGE 0ROBOT_FACE 0HUGGING+1 0SIGN_OF_THE_HORNS 0CALL_ME_HAND 0RAISED_BACK_OF+1
0LEFT-FACING_FIST 0RIGHT-FACING+1 0HANDSHAKE 0HAND_WITH_INDEX_AND_MIDDLE_FINGERS_CROSSED
0I_LOVE_YOU_HAND_SIGN 0FACE_WITH_COWBOY_HAT 0CLOWN_FACE 0NAUSEATED+1 0ROLLING_ON_THE_FLOOR_LAUGHING
0DROOLING_FACE 0LYING+1 0FACE_PALM 0SNEEZING_FACE 0FACE_WITH_ONE_EYEBROW_RAISED
0GRINNING_FACE_WITH_STAR_EYES 3ONE_LARGE_AND_ONE_SMALL_EYE 0FACE_WITH_FINGER_COVERING_CLOSED_LIPS
0SERIOUS_FACE_WITH_SYMBOLS_COVERING_MOUTH 0SMILING_FACE_WITH_SMILING_EYES_AND_HAND+2
0FACE_WITH_OPEN_MOUTH_VOMITING 0SHOCKED_FACE_WITH_EXPLODING_HEAD 0PREGNANT_WOMAN 0BREAST-FEEDING
0PALMS_UP_TOGETHER 0SELFIE 0PRINCE 0MAN_IN_TUXEDO 0MOTHER_CHRISTMAS 0SHRUG 0PERSON_DOING_CARTWHEEL
0JUGGLING 0FENCER 0MODERN_PENTATHLON 0WRESTLERS 0WATER_POLO 0HANDBALL 0DIVING_MASK 0WILTED_FLOWER
0DRUM_WITH_DRUMSTICKS 0CLINKING_GLASSES 0TUMBLER_GLASS 0SPOON 0GOAL_NET 0RIFLE 0FIRST_PLACE_MEDAL
0SECOND+2 0THIRD+2 0BOXING_GLOVE 0MARTIAL_ARTS_UNIFORM 0CURLING_STONE 0LACROSSE_STICK_AND_BALL
0SOFTBALL 0FLYING_DISC 0CROISSANT 0AVOCADO 0CUCUMBER 0BACON 0POTATO 0CARROT 0BAGUETTE_BREAD
0GREEN_SALAD 0SHALLOW_PAN_OF_FOOD 0STUFFED_FLATBREAD 0EGG 0GLASS_OF_MILK 0PEANUTS 0KIWIFRUIT
0PANCAKES 0DUMPLING 0FORTUNE_COOKIE 0TAKEOUT_BOX 0CHOPSTICKS 0BOWL_WITH_SPOON 0CUP_WITH_STRAW
0COCONUT 0BROCCOLI 0PIE 0PRETZEL 0CUT_OF_MEAT 0SANDWICH 0CANNED_FOOD 0LEAFY_GREEN 0MANGO 0MOON_CAKE
0BAGEL 0SMILING_FACE_WITH_SMILING_EYES_AND_THREE_HEARTS 0YAWNING_FACE 0SMILING_FACE_WITH_TEAR
0FACE_WITH_PARTY_HORN_AND_PARTY_HAT 2UNEVEN_EYES_AND_WAVY_MOUTH 0OVERHEATED_FACE 0FREEZING+1 0NINJA
0DISGUISED_FACE 0FACE_HOLDING_BACK_TEARS 1WITH_PLEADING_EYES 0SARI 0LAB_COAT 0GOGGLES 0HIKING_BOOT
0FLAT_SHOE 0CRAB 0LION_FACE 0SCORPION 0TURKEY 0UNICORN_FACE 0EAGLE 0DUCK 0BAT 0SHARK 0OWL 0FOX_FACE
0BUTTERFLY 0DEER 0GORILLA 0LIZARD 0RHINOCEROS 0SHRIMP 0SQUID 0GIRAFFE_FACE 0ZEBRA+1 0HEDGEHOG
0SAUROPOD 0T-REX 0CRICKET 0KANGAROO 0LLAMA 0PEACOCK 0HIPPOPOTAMUS 0PARROT 0RACCOON 0LOBSTER
0MOSQUITO 0MICROBE 0BADGER 0SWAN 0MAMMOTH 0DODO 0SLOTH 0OTTER 0ORANGUTAN 0SKUNK 0FLAMINGO 0OYSTER
0BEAVER 0BISON 0SEAL 0GUIDE_DOG 0PROBING_CANE 0EMOJI_COMPONENT_RED_HAIR 2CURLY+1 2BALD 2WHITE_HAIR
0BONE 0LEG 0FOOT 0TOOTH 0SUPERHERO 0SUPERVILLAIN 0SAFETY_VEST 0EAR_WITH_HEARING_AID
0MOTORIZED_WHEELCHAIR 0MANUAL+1 0MECHANICAL_ARM 1LEG 0CHEESE_WEDGE 0CUPCAKE 0SALT_SHAKER
0BEVERAGE_BOX 0GARLIC 0ONION 0FALAFEL 0WAFFLE 0BUTTER 0MATE_DRINK 0ICE_CUBE 0BUBBLE_TEA 0TROLL
0STANDING_PERSON 0KNEELING+1 0DEAF+1 0FACE_WITH_MONOCLE 0ADULT 0CHILD 0OLDER_ADULT 0BEARDED_PERSON
0PERSON_WITH_HEADSCARF 1IN_STEAMY_ROOM 1CLIMBING 1IN_LOTUS_POSITION 0MAGE 0FAIRY 0VAMPIRE
0MERPERSON 0ELF 0GENIE 0ZOMBIE 0BRAIN 0ORANGE_HEART 0BILLED_CAP 0SCARF 0GLOVES 0COAT 0SOCKS
0RED_GIFT_ENVELOPE 0FIRECRACKER 0JIGSAW_PUZZLE_PIECE 0TEST_TUBE 0PETRI_DISH 0DNA_DOUBLE_HELIX
0COMPASS 0ABACUS 0FIRE_EXTINGUISHER 0TOOLBOX 0BRICK 0MAGNET 0LUGGAGE 0LOTION_BOTTLE
0SPOOL_OF_THREAD 0BALL_OF_YARN 0SAFETY_PIN 0TEDDY_BEAR 0BROOM 0BASKET 0ROLL_OF_PAPER 0BAR_OF_SOAP
0SPONGE 0RECEIPT 0NAZAR_AMULET 0NEUTRAL_CHESS_KING 2QUEEN 2ROOK 2BISHOP 2KNIGHT 2PAWN
0WHITE_CHESS_KNIGHT_ROTATED_FORTY-FIVE_DEGREES 0BLACK+5 0NEUTRAL+5
0WHITE_CHESS_KING_ROTATED_NINETY+1 2QUEEN+3 2ROOK+3 2BISHOP+3 2KNIGHT+3 2PAWN+3 0BLACK_CHESS_KING+3
2QUEEN+3 2ROOK+3 2BISHOP+3 2KNIGHT+3 2PAWN+3 0NEUTRAL_CHESS_KING+3 2QUEEN+3 2ROOK+3 2BISHOP+3
2KNIGHT+3 2PAWN+3 0WHITE_CHESS_KNIGHT_ROTATED_ONE_HUNDRED_THIRTY-FIVE+1 0BLACK+7 0NEUTRAL+7
0WHITE_CHESS_TURNED_KING 3QUEEN 3ROOK 3BISHOP 3KNIGHT 3PAWN 0BLACK_CHESS_TURNED_KING 3QUEEN 3ROOK
3BISHOP 3KNIGHT 3PAWN 0NEUTRAL_CHESS_TURNED_KING 3QUEEN 3ROOK 3BISHOP 3KNIGHT 3PAWN
0WHITE_CHESS_KNIGHT_ROTATED_TWO_HUNDRED_TWENTY-FIVE_DEGREES 0BLACK+7 0NEUTRAL+7
0WHITE_CHESS_KING_ROTATED_TWO_HUNDRED_SEVENTY+1 2QUEEN+5 2ROOK+5 2BISHOP+5 2KNIGHT+5 2PAWN+5
0BLACK_CHESS_KING+5 2QUEEN+5 2ROOK+5 2BISHOP+5 2KNIGHT+5 2PAWN+5 0NEUTRAL_CHESS_KING+5 2QUEEN+5
2ROOK+5 2BISHOP+5 2KNIGHT+5 2PAWN+5 0WHITE_CHESS_KNIGHT_ROTATED_THREE_HUNDRED_FIFTEEN+1 0BLACK+7
0NEUTRAL+7 0WHITE_CHESS_EQUIHOPPER 0BLACK+2 0NEUTRAL+2
0WHITE_CHESS_EQUIHOPPER_ROTATED_NINETY_DEGREES 0BLACK+5 0NEUTRAL+5 0WHITE_CHESS_KNIGHT-QUEEN
2KNIGHT-ROOK 2KNIGHT-BISHOP 0BLACK_CHESS_KNIGHT-QUEEN 2KNIGHT-ROOK 2KNIGHT-BISHOP @1FA60
0XIANGQI_RED_GENERAL 2MANDARIN 2ELEPHANT 2HORSE 2CHARIOT 2CANNON 2SOLDIER 1BLACK_GENERAL 2MANDARIN
2ELEPHANT 2HORSE 2CHARIOT 2CANNON 2SOLDIER @1FA70 0BALLET_SHOES 0ONE-PIECE_SWIMSUIT 0BRIEFS 0SHORTS
0THONG_SANDAL @1FA78 0DROP_OF_BLOOD 0ADHESIVE_BANDAGE 0STETHOSCOPE 0X-RAY 0CRUTCH @1FA80 0YO-YO
0KITE 0PARACHUTE 0BOOMERANG 0MAGIC_WAND 0PINATA 0NESTING_DOLLS @1FA90 0RINGED_PLANET 0CHAIR 0RAZOR
0AXE 0DIYA_LAMP 0BANJO 0MILITARY_HELMET 0ACCORDION 0LONG_DRUM 0COIN 0CARPENTRY_SAW 0SCREWDRIVER
0LADDER 0HOOK 0MIRROR 0WINDOW 0PLUNGER 0SEWING_NEEDLE 0KNOT 0BUCKET 0MOUSE_TRAP 0TOOTHBRUSH
0HEADSTONE 0PLACARD 0ROCK 0MIRROR_BALL 0IDENTIFICATION_CARD 0LOW_BATTERY 0HAMSA @1FAB0 0FLY 0WORM
0BEETLE 0COCKROACH 0POTTED_PLANT 0WOOD 0FEATHER 0LOTUS 0CORAL 0EMPTY_NEST 0NEST_WITH_EGGS @1FAC0
0ANATOMICAL_HEART 0LUNGS 0PEOPLE_HUGGING 0PREGNANT_MAN 1PERSON 0PERSON_WITH_CROWN @1FAD0
0BLUEBERRIES 0BELL_PEPPER 0OLIVE 0FLATBREAD 0TAMALE 0FONDUE 0TEAPOT 0POURING_LIQUID 0BEANS 0JAR
@1FAE0 0MELTING_FACE 0SALUTING+1 0FACE_WITH_OPEN_EYES_AND_HAND_OVER_MOUTH 2PEEKING_EYE
2DIAGONAL_MOUTH 0DOTTED_LINE_FACE 0BITING_LIP 0BUBBLES @1FAF0
0HAND_WITH_INDEX_FINGER_AND_THUMB_CROSSED 0RIGHTWARDS_HAND 0LEFTWARDS+1 0PALM_DOWN+1 1UP+1
0INDEX_POINTING_AT_THE_VIEWER 0HEART_HANDS @1FB00 0BLOCK_SEXTANT-1 1SEXTANT-2 1SEXTANT-12
1SEXTANT-3 1SEXTANT-13 1SEXTANT-23 1SEXTANT-123 1SEXTANT-4 1SEXTANT-14 1SEXTANT-24 1SEXTANT-124
1SEXTANT-34 1SEXTANT-134 1SEXTANT-234 1SEXTANT-1234 1SEXTANT-5 1SEXTANT-15 1SEXTANT-25 1SEXTANT-125
1SEXTANT-35 1SEXTANT-235 1SEXTANT-1235 1SEXTANT-45 1SEXTANT-145 1SEXTANT-245 1SEXTANT-1245
1SEXTANT-345 1SEXTANT-1345 1SEXTANT-2345 1SEXTANT-12345 1SEXTANT-6 1SEXTANT-16 1SEXTANT-26
1SEXTANT-126 1SEXTANT-36 1SEXTANT-136 1SEXTANT-236 1SEXTANT-1236 1SEXTANT-46 1SEXTANT-146
1SEXTANT-1246 1SEXTANT-346 1SEXTANT-1346 1SEXTANT-2346 1SEXTANT-12346 1SEXTANT-56 1SEXTANT-156
1SEXTANT-256 1SEXTANT-1256 1SEXTANT-356 1SEXTANT-1356 1SEXTANT-2356 1SEXTANT-12356 1SEXTANT-456
1SEXTANT-1456 1SEXTANT-2456 1SEXTANT-12456 1SEXTANT-3456 1SEXTANT-13456 1SEXTANT-23456
0LOWER_LEFT_BLOCK_DIAGONAL_LOWER_MIDDLE_LEFT_TO_LOWER_CENTRE 9RIGHT
4UPPER_MIDDLE_LEFT_TO_LOWER_CENTRE 9RIGHT 5LEFT_TO_LOWER_CENTRE
1RIGHT_BLOCK_DIAGONAL_UPPER_MIDDLE_LEFT_TO_UPPER+1 9RIGHT 4LOWER_MIDDLE_LEFT_TO_UPPER_CENTRE 9RIGHT
5LEFT_TO_UPPER_CENTRE 5MIDDLE_LEFT_TO_UPPER_MIDDLE_RIGHT 5CENTRE_TO_LOWER+2 5LEFT+4
5CENTRE_TO_UPPER+2 5LEFT+4 5CENTRE_TO_UPPER+1 1LEFT_BLOCK_DIAGONAL_UPPER_CENTRE_TO_UPPER_MIDDLE+1
5LEFT+4 5CENTRE_TO_LOWER+2 5LEFT+4 5CENTRE_TO_LOWER+1 5MIDDLE_LEFT_TO_LOWER_MIDDLE+1
0UPPER_RIGHT_BLOCK_DIAGONAL_LOWER_MIDDLE_LEFT_TO_LOWER_CENTRE 9RIGHT
4UPPER_MIDDLE_LEFT_TO_LOWER_CENTRE 9RIGHT 5LEFT_TO_LOWER_CENTRE
1LEFT_BLOCK_DIAGONAL_UPPER_MIDDLE_LEFT_TO_UPPER+1 9RIGHT 4LOWER_MIDDLE_LEFT_TO_UPPER_CENTRE 9RIGHT
5LEFT_TO_UPPER_CENTRE 5MIDDLE_LEFT_TO_UPPER_MIDDLE_RIGHT 5CENTRE_TO_LOWER+2 5LEFT+4
5CENTRE_TO_UPPER+2 5LEFT+4 5CENTRE_TO_UPPER+1 1RIGHT_BLOCK_DIAGONAL_UPPER_CENTRE_TO_UPPER_MIDDLE+1
5LEFT+4 5CENTRE_TO_LOWER+2 5LEFT+4 5CENTRE_TO_LOWER+1 5MIDDLE_LEFT_TO_LOWER_MIDDLE+1
1AND_RIGHT_AND_LOWER_TRIANGULAR_THREE_QUARTERS_BLOCK 0LEFT_AND_LOWER_AND_RIGHT+4
0UPPER_AND_LEFT_AND_LOWER+4 0LEFT_AND_UPPER_AND_RIGHT+4 1TRIANGULAR_ONE_QUARTER+1 0UPPER+4 0RIGHT+4
0LOWER+4 0VERTICAL_ONE_EIGHTH_BLOCK-2 3BLOCK-3 3BLOCK-4 3BLOCK-5 3BLOCK-6 3BLOCK-7
0HORIZONTAL_ONE_EIGHTH_BLOCK-2 3BLOCK-3 3BLOCK-4 3BLOCK-5 3BLOCK-6 3BLOCK-7
0LEFT_AND_LOWER_ONE_EIGHTH_BLOCK 2UPPER+3 0RIGHT+5 2LOWER+3 0UPPER+5
0HORIZONTAL_ONE_EIGHTH_BLOCK-1358 0UPPER_ONE_QUARTER_BLOCK 1THREE_EIGHTHS+1 1FIVE+2
1THREE_QUARTERS+1 1SEVEN_EIGHTHS+1 0RIGHT_ONE_QUARTER+1 1THREE_EIGHTHS+1 1FIVE+2 1THREE_QUARTERS+1
1SEVEN_EIGHTHS+1 0LEFT_HALF_MEDIUM_SHADE 0RIGHT+3 0UPPER+3 0LOWER+3 0INVERSE+2
0UPPER_HALF_BLOCK_AND_LOWER_HALF+3 2INVERSE_MEDIUM_SHADE_AND_LOWER_HALF_BLOCK @1FB94
0LEFT_HALF_INVERSE_MEDIUM_SHADE_AND_RIGHT+2 0CHECKER_BOARD_FILL 0INVERSE+3 0HEAVY_HORIZONTAL+1
0UPPER_LEFT_TO_LOWER_RIGHT+1 1RIGHT_TO_LOWER_LEFT+1 1AND_LOWER_TRIANGULAR_HALF_BLOCK
0LEFT_AND_RIGHT+3 0UPPER_LEFT_TRIANGULAR_MEDIUM_SHADE 1RIGHT+3 0LOWER+4 1LEFT+3
0BOX_DRAWINGS_LIGHT_DIAGONAL_UPPER_CENTRE_TO_MIDDLE_LEFT 8RIGHT 4MIDDLE_LEFT_TO_LOWER_CENTRE
5RIGHT+3 4UPPER_CENTRE_TO_MIDDLE_LEFT+3 8RIGHT+3 4MIDDLE_LEFT_TO_LOWER_CENTRE_TO_MIDDLE_RIGHT
7UPPER+4 4UPPER_CENTRE_TO_MIDDLE_LEFT_AND_MIDDLE_RIGHT_TO_LOWER_CENTRE 8RIGHT_AND_MIDDLE_LEFT+3
9TO_LOWER_CENTRE_TO_MIDDLE_LEFT 8LEFT_TO_LOWER_CENTRE_TO_MIDDLE_RIGHT
4MIDDLE_LEFT_TO_UPPER_CENTRE_TO_MIDDLE_RIGHT_TO_LOWER_CENTRE
5RIGHT_TO_UPPER_CENTRE_TO_MIDDLE_LEFT+3 4DIAMOND 3HORIZONTAL_WITH_VERTICAL_STROKE
0ARROWHEAD-SHAPED_POINTER 0INVERSE_CHECK_MARK 0LEFT_HALF_RUNNING_MAN 0RIGHT+3
0INVERSE_DOWNWARDS_ARROW_WITH_TIP_LEFTWARDS 0LEFTWARDS_ARROW_AND_UPPER_AND_LOWER_ONE_EIGHTH_BLOCK
0RIGHTWARDS+8 0DOWNWARDS_ARROW_AND_RIGHT+3 0UPWARDS+6 0LEFT_HALF_FOLDER 0RIGHT+2
0VOIDED_GREEK_CROSS 0RIGHT_OPEN_SQUARED_DOT 0NEGATIVE_DIAGONAL_CROSS 2MIDDLE_RIGHT_TO_LOWER_CENTRE
2DIAMOND 0WHITE_HEAVY_SALTIRE_WITH_ROUNDED_CORNERS 0LEFT_THIRD_WHITE_RIGHT_POINTING_INDEX 0MIDDLE+5
0RIGHT+5 0NEGATIVE_SQUARED_QUESTION_MARK 0STICK_FIGURE 2WITH_ARMS_RAISED 2LEANING_LEFT 3RIGHT
2WITH_DRESS 0WHITE_UP-POINTING_CHEVRON @1FBF0 0SEGMENTED_DIGIT_ZERO 2ONE 2TWO 2THREE 2FOUR 2FIVE
2SIX 2SEVEN 2EIGHT 2NINE @E0001 0LANGUAGE_TAG @E0020 0TAG_SPACE 1EXCLAMATION_MARK 1QUOTATION+1
1NUMBER_SIGN 1DOLLAR+1 1PERCENT+1 1AMPERSAND 1APOSTROPHE 1LEFT_PARENTHESIS 1RIGHT+1 1ASTERISK
1PLUS_SIGN 1COMMA 1HYPHEN-MINUS 1FULL_STOP 1SOLIDUS 1DIGIT_ZERO 2ONE 2TWO 2THREE 2FOUR 2FIVE 2SIX
2SEVEN 2EIGHT 2NINE 1COLON 1SEMICOLON 1LESS-THAN_SIGN 1EQUALS+1 1GREATER-THAN+1 1QUESTION_MARK
1COMMERCIAL_AT 1LATIN_CAPITAL_LETTER_A 4B 4C 4D 4E 4F 4G 4H 4I 4J 4K 4L 4M 4N 4O 4P 4Q 4R 4S 4T 4U
4V 4W 4X 4Y 4Z 1LEFT_SQUARE_BRACKET 1REVERSE_SOLIDUS 1RIGHT_SQUARE_BRACKET 1CIRCUMFLEX_ACCENT
1LOW_LINE 1GRAVE_ACCENT 1LATIN_SMALL_LETTER_A 4B 4C 4D 4E 4F 4G 4H 4I 4J 4K 4L 4M 4N 4O 4P 4Q 4R 4S
4T 4U 4V 4W 4X 4Y 4Z 1LEFT_CURLY_BRACKET 1VERTICAL_LINE 1RIGHT_CURLY_BRACKET 1TILDE 0CANCEL_TAG
@E0100 0VARIATION_SELECTOR-17 1SELECTOR-18 1SELECTOR-19 1SELECTOR-20 1SELECTOR-21 1SELECTOR-22
1SELECTOR-23 1SELECTOR-24 1SELECTOR-25 1SELECTOR-26 1SELECTOR-27 1SELECTOR-28 1SELECTOR-29
1SELECTOR-30 1SELECTOR-31 1SELECTOR-32 1SELECTOR-33 1SELECTOR-34 1SELECTOR-35 1SELECTOR-36
1SELECTOR-37 1SELECTOR-38 1SELECTOR-39 1SELECTOR-40 1SELECTOR-41 1SELECTOR-42 1SELECTOR-43
1SELECTOR-44 1SELECTOR-45 1SELECTOR-46 1SELECTOR-47 1SELECTOR-48 1SELECTOR-49 1SELECTOR-50
1SELECTOR-51 1SELECTOR-52 1SELECTOR-53 1SELECTOR-54 1SELECTOR-55 1SELECTOR-56 1SELECTOR-57
1SELECTOR-58 1SELECTOR-59 1SELECTOR-60 1SELECTOR-61 1SELECTOR-62 1SELECTOR-63 1SELECTOR-64
1SELECTOR-65 1SELECTOR-66 1SELECTOR-67 1SELECTOR-68 1SELECTOR-69 1SELECTOR-70 1SELECTOR-71
1SELECTOR-72 1SELECTOR-73 1SELECTOR-74 1SELECTOR-75 1SELECTOR-76 1SELECTOR-77 1SELECTOR-78
1SELECTOR-79 1SELECTOR-80 1SELECTOR-81 1SELECTOR-82 1SELECTOR-83 1SELECTOR-84 1SELECTOR-85
1SELECTOR-86 1SELECTOR-87 1SELECTOR-88 1SELECTOR-89 1SELECTOR-90 1SELECTOR-91 1SELECTOR-92
1SELECTOR-93 1SELECTOR-94 1SELECTOR-95 1SELECTOR-96 1SELECTOR-97 1SELECTOR-98 1SELECTOR-99
1SELECTOR-100 1SELECTOR-101 1SELECTOR-102 1SELECTOR-103 1SELECTOR-104 1SELECTOR-105 1SELECTOR-106
1SELECTOR-107 1SELECTOR-108 1SELECTOR-109 1SELECTOR-110 1SELECTOR-111 1SELECTOR-112 1SELECTOR-113
1SELECTOR-114 1SELECTOR-115 1SELECTOR-116 1SELECTOR-117 1SELECTOR-118 1SELECTOR-119 1SELECTOR-120
1SELECTOR-121 1SELECTOR-122 1SELECTOR-123 1SELECTOR-124 1SELECTOR-125 1SELECTOR-126 1SELECTOR-127
1SELECTOR-128 1SELECTOR-129 1SELECTOR-130 1SELECTOR-131 1SELECTOR-132 1SELECTOR-133 1SELECTOR-134
1SELECTOR-135 1SELECTOR-136 1SELECTOR-137 1SELECTOR-138 1SELECTOR-139 1SELECTOR-140 1SELECTOR-141
1SELECTOR-142 1SELECTOR-143 1SELECTOR-144 1SELECTOR-145 1SELECTOR-146 1SELECTOR-147 1SELECTOR-148
1SELECTOR-149 1SELECTOR-150 1SELECTOR-151 1SELECTOR-152 1SELECTOR-153 1SELECTOR-154 1SELECTOR-155
1SELECTOR-156 1SELECTOR-157 1SELECTOR-158 1SELECTOR-159 1SELECTOR-160 1SELECTOR-161 1SELECTOR-162
1SELECTOR-163 1SELECTOR-164 1SELECTOR-165 1SELECTOR-166 1SELECTOR-167 1SELECTOR-168 1SELECTOR-169
1SELECTOR-170 1SELECTOR-171 1SELECTOR-172 1SELECTOR-173 1SELECTOR-174 1SELECTOR-175 1SELECTOR-176
1SELECTOR-177 1SELECTOR-178 1SELECTOR-179 1SELECTOR-180 1SELECTOR-181 1SELECTOR-182 1SELECTOR-183
1SELECTOR-184 1SELECTOR-185 1SELECTOR-186 1SELECTOR-187 1SELECTOR-188 1SELECTOR-189 1SELECTOR-190
1SELECTOR-191 1SELECTOR-192 1SELECTOR-193 1SELECTOR-194 1SELECTOR-195 1SELECTOR-196 1SELECTOR-197
1SELECTOR-198 1SELECTOR-199 1SELECTOR-200 1SELECTOR-201 1SELECTOR-202 1SELECTOR-203 1SELECTOR-204
1SELECTOR-205 1SELECTOR-206 1SELECTOR-207 1SELECTOR-208 1SELECTOR-209 1SELECTOR-210 1SELECTOR-211
1SELECTOR-212 1SELECTOR-213 1SELECTOR-214 1SELECTOR-215 1SELECTOR-216 1SELECTOR-217 1SELECTOR-218
1SELECTOR-219 1SELECTOR-220 1SELECTOR-221 1SELECTOR-222 1SELECTOR-223 1SELECTOR-224 1SELECTOR-225
1SELECTOR-226 1SELECTOR-227 1SELECTOR-228 1SELECTOR-229 1SELECTOR-230 1SELECTOR-231 1SELECTOR-232
1SELECTOR-233 1SELECTOR-234 1SELECTOR-235 1SELECTOR-236 1SELECTOR-237 1SELECTOR-238 1SELECTOR-239
1SELECTOR-240 1SELECTOR-241 1SELECTOR-242 1SELECTOR-243 1SELECTOR-244 1SELECTOR-245 1SELECTOR-246
1SELECTOR-247 1SELECTOR-248 1SELECTOR-249 1SELECTOR-250 1SELECTOR-251 1SELECTOR-252 1SELECTOR-253
1SELECTOR-254 1SELECTOR-255 1SELECTOR-256 @0 0NUL @0 0NULL 0SOH @1 0START_OF_HEADING 2TEXT @2 0STX
0END_OF_TEXT @3 0ETX 0END_OF_TRANSMISSION @4 0EOT 0ENQ @5 0ENQUIRY 0ACK @6 0ACKNOWLEDGE 0ALERT @7
0BEL 0BACKSPACE @8 0BS 0CHARACTER_TABULATION @9 0HORIZONTAL+1 @9 0HT @9 0TAB 0END_OF_LINE @A 0EOL
@A 0LF @A 0LINE_FEED @A 0NEW_LINE @A 0NL 0LINE_TABULATION @B 0VERTICAL+1 @B 0VT 0FF @C 0FORM_FEED
0CARRIAGE_RETURN @D 0CR 0LOCKING-SHIFT_ONE @E 0SHIFT_OUT @E 0SO 0LOCKING-SHIFT_ZERO @F 0SHIFT_IN @F
0SI 0DATA_LINK_ESCAPE @10 0DLE 0DC1 @11 0DEVICE_CONTROL_ONE 0DC2 @12 0DEVICE_CONTROL_TWO 0DC3 @13
0DEVICE_CONTROL_THREE 0DC4 @14 0DEVICE_CONTROL_FOUR 0NAK @15 0NEGATIVE_ACKNOWLEDGE 0SYN @16
0SYNCHRONOUS_IDLE 0END_OF_TRANSMISSION_BLOCK @17 0ETB 0CAN @18 0CANCEL 0END_OF_MEDIUM @19 0EOM 0SUB
@1A 0SUBSTITUTE 0ESC @1B 0ESCAPE 0FILE_SEPARATOR @1C 0FS @1C 0INFORMATION_SEPARATOR_FOUR
0GROUP_SEPARATOR @1D 0GS @1D 0INFORMATION_SEPARATOR_THREE 2TWO @1E 0RECORD_SEPARATOR @1E 0RS
0INFORMATION_SEPARATOR_ONE @1F 0UNIT_SEPARATOR @1F 0US 0SP @7F 0DEL @7F 0DELETE 0PAD @80
0PADDING_CHARACTER 0HIGH_OCTET_PRESET @81 0HOP 0BPH @82 0BREAK_PERMITTED_HERE 0NBH @83
0NO_BREAK_HERE 0IND @84 0INDEX 0NEL @85 0NEXT_LINE 0SSA @86 0START_OF_SELECTED_AREA 0END+3 @87 0ESA
0CHARACTER_TABULATION_SET @88 0HORIZONTAL+2 @88 0HTS 0CHARACTER_TABULATION_WITH_JUSTIFICATION @89
0HORIZONTAL+3 @89 0HTJ 0LINE_TABULATION_SET @8A 0VERTICAL+2 @8A 0VTS 0PARTIAL_LINE_DOWN @8B
2FORWARD @8B 0PLD 0PARTIAL_LINE_BACKWARD @8C 2UP @8C 0PLU 0REVERSE_INDEX @8D 1LINE_FEED @8D 0RI
0SINGLE_SHIFT_TWO @8E 0SINGLE-SHIFT-2 @8E 0SS2 0SINGLE_SHIFT_THREE @8F 0SINGLE-SHIFT-3 @8F 0SS3
0DCS @90 0DEVICE_CONTROL_STRING 0PRIVATE_USE_ONE @91 1USE-1 @91 0PU1 0PRIVATE_USE_TWO @92 1USE-2
@92 0PU2 0SET_TRANSMIT_STATE @93 0STS 0CANCEL_CHARACTER @94 0CCH 0MESSAGE_WAITING @95 0MW 0SPA @96
0START_OF_GUARDED_AREA @96 2PROTECTED+1 0END_OF_GUARDED+1 @97 2PROTECTED+1 @97 0EPA 0SOS @98
0START_OF_STRING 0SGC @99 0SINGLE_GRAPHIC_CHARACTER_INTRODUCER 0SCI @9A
0SINGLE_CHARACTER_INTRODUCER 0CONTROL_SEQUENCE+1 @9B 0CSI 0ST @9C 0STRING_TERMINATOR
0OPERATING_SYSTEM_COMMAND @9D 0OSC 0PM @9E 0PRIVACY_MESSAGE 0APC @9F 0APPLICATION_PROGRAM_COMMAND
0NBSP @AD 0SHY @1A2 0LATIN_CAPITAL_LETTER_GHA 1SMALL+2 @34F 0CGJ @61C 0ALM @709
0SYRIAC_SUBLINEAR_COLON_SKEWED_LEFT @CDE 0KANNADA_LETTER_LLLA @E9D 0LAO_LETTER_FO_FON @E9F 3FAY
@EA3 2RO @EA5 2LO @FD0 0TIBETAN_MARK_BKA-_SHOG_GI_MGO_RGYAN @11EC 0HANGUL_JONGSEONG_YESIEUNG-KIYEOK
2YESIEUNG-SSANGKIYEOK 2SSANGYESIEUNG 2YESIEUNG-KHIEUKH @180B 0FVS1 0FVS2 0FVS3 0MVS 0FVS4 @200B
0ZWSP 0ZWNJ 0ZWJ 0LRM 0RLM @202A 0LRE 0RLE 0PDF 0LRO 0RLO 0NNBSP @205F 0MMSP 0WJ @2066 0LRI 0RLI
0FSI 0PDI @2118 0WEIERSTRASS_ELLIPTIC_FUNCTION @2448 0MICR_ON_US_SYMBOL 1DASH+1 @2B7A
0LEFTWARDS_TRIANGLE-HEADED_ARROW_WITH_DOUBLE_VERTICAL_STROKE @2B7C 0RIGHTWARDS+6 @A015
0YI_SYLLABLE_ITERATION_MARK @AA6E 0MYANMAR_LETTER_KHAMTI_LLA @FE00 0VS1 0VS2 0VS3 0VS4 0VS5 0VS6
0VS7 0VS8 0VS9 0VS10 0VS11 0VS12 0VS13 0VS14 0VS15 0VS16 @FE18
0PRESENTATION_FORM_FOR_VERTICAL_RIGHT_WHITE_LENTICULAR_BRACKET @FEFF 0BOM @FEFF 0BYTE_ORDER_MARK
@FEFF 0ZWNBSP @122D4 0CUNEIFORM_SIGN_NU11_TENU 3OVER_NU11_BUR_OVER_BUR @16E56
0MEDEFAIDRIN_CAPITAL_LETTER_H 3NG @16E76 1SMALL_LETTER_H 3NG @1B001 0HENTAIGANA_LETTER_E-1 @1D0C5
0BYZANTINE_MUSICAL_SYMBOL_FTHORA_SKLIRON_CHROMA_VASIS @E0100 0VS17 0VS18 0VS19 0VS20 0VS21 0VS22
0VS23 0VS24 0VS25 0VS26 0VS27 0VS28 0VS29 0VS30 0VS31 0VS32 0VS33 0VS34 0VS35 0VS36 0VS37 0VS38
0VS39 0VS40 0VS41 0VS42 0VS43 0VS44 0VS45 0VS46 0VS47 0VS48 0VS49 0VS50 0VS51 0VS52 0VS53 0VS54
0VS55 0VS56 0VS57 0VS58 0VS59 0VS60 0VS61 0VS62 0VS63 0VS64 0VS65 0VS66 0VS67 0VS68 0VS69 0VS70
0VS71 0VS72 0VS73 0VS74 0VS75 0VS76 0VS77 0VS78 0VS79 0VS80 0VS81 0VS82 0VS83 0VS84 0VS85 0VS86
0VS87 0VS88 0VS89 0VS90 0VS91 0VS92 0VS93 0VS94 0VS95 0VS96 0VS97 0VS98 0VS99 0VS100 0VS101 0VS102
0VS103 0VS104 0VS105 0VS106 0VS107 0VS108 0VS109 0VS110 0VS111 0VS112 0VS113 0VS114 0VS115 0VS116
0VS117 0VS118 0VS119 0VS120 0VS121 0VS122 0VS123 0VS124 0VS125 0VS126 0VS127 0VS128 0VS129 0VS130
0VS131 0VS132 0VS133 0VS134 0VS135 0VS136 0VS137 0VS138 0VS139 0VS140 0VS141 0VS142 0VS143 0VS144
0VS145 0VS146 0VS147 0VS148 0VS149 0VS150 0VS151 0VS152 0VS153 0VS154 0VS155 0VS156 0VS157 0VS158
0VS159 0VS160 0VS161 0VS162 0VS163 0VS164 0VS165 0VS166 0VS167 0VS168 0VS169 0VS170 0VS171 0VS172
0VS173 0VS174 0VS175 0VS176 0VS177 0VS178 0VS179 0VS180 0VS181 0VS182 0VS183 0VS184 0VS185 0VS186
0VS187 0VS188 0VS189 0VS190 0VS191 0VS192 0VS193 0VS194 0VS195 0VS196 0VS197 0VS198 0VS199 0VS200
0VS201 0VS202 0VS203 0VS204 0VS205 0VS206 0VS207 0VS208 0VS209 0VS210 0VS211 0VS212 0VS213 0VS214
0VS215 0VS216 0VS217 0VS218 0VS219 0VS220 0VS221 0VS222 0VS223 0VS224 0VS225 0VS226 0VS227 0VS228
0VS229 0VS230 0VS231 0VS232 0VS233 0VS234 0VS235 0VS236 0VS237 0VS238 0VS239 0VS240 0VS241 0VS242
0VS243 0VS244 0VS245 0VS246 0VS247 0VS248 0VS249 0VS250 0VS251 0VS252 0VS253 0VS254 0VS255 0VS256"

end FieldRules.Text
