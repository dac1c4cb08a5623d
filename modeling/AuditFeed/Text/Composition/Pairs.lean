/-!
# Composite characters

A composite character is a character and one behind it, most often a mark, written as one. Each pair
has one composite and each composite one pair. The composites of Korean syllables follow a rule of
their own and are not listed.
-/

namespace AuditFeed.Text

/-- Pairs by their second characters: its number, first characters, and their composites. -/
def pairRows : List (Nat × String × String) :=
  [
    (0x300, "AEIOUaeiouÜüNnЕИеиĒēŌōWwÂâĂă", "ÀÈÌÒÙàèìòùǛǜǸǹЀЍѐѝḔḕṐṑẀẁẦầẰằ"),
    (0x300, "ÊêÔôƠơƯưYyἀἁἈἉἐἑἘἙἠἡἨἩἰἱἸἹὀὁ", "ỀềỒồỜờỪừỲỳἂἃἊἋἒἓἚἛἢἣἪἫἲἳἺἻὂὃ"),
    (0x300, "ὈὉὐὑὙὠὡὨὩαεηιουωΑΕΗ᾿ϊΙ῾ϋΥ¨ΟΩ", "ὊὋὒὓὛὢὣὪὫὰὲὴὶὸὺὼᾺῈῊ῍ῒῚ῝ῢῪ῭ῸῺ"),
    (0x301, "AEIOUYaeiouyCcLlNnRrSsZzÜüGg", "ÁÉÍÓÚÝáéíóúýĆćĹĺŃńŔŕŚśŹźǗǘǴǵ"),
    (0x301, "ÅåÆæØø¨ΑΕΗΙΟΥΩϊαεηιϋουωϒГКгк", "ǺǻǼǽǾǿ΅ΆΈΉΊΌΎΏΐάέήίΰόύώϓЃЌѓќ"),
    (0x301, "ÇçĒēÏïKkMmÕõŌōPpŨũWwÂâĂăÊêÔô", "ḈḉḖḗḮḯḰḱḾḿṌṍṒṓṔṕṸṹẂẃẤấẮắẾếỐố"),
    (0x301, "ƠơƯưἀἁἈἉἐἑἘἙἠἡἨἩἰἱἸἹὀὁὈὉὐὑὙὠ", "ỚớỨứἄἅἌἍἔἕἜἝἤἥἬἭἴἵἼἽὄὅὌὍὔὕὝὤ"),
    (0x301, "ὡὨὩ᾿῾", "ὥὬὭ῎῞"),
    (0x302, "AEIOUaeiouCcGgHhJjSsWwYyZzẠạ", "ÂÊÎÔÛâêîôûĈĉĜĝĤĥĴĵŜŝŴŵŶŷẐẑẬậ"),
    (0x302, "ẸẹỌọ", "ỆệỘộ"),
    (0x303, "ANOanoIiUuVvÂâĂăEeÊêÔôƠơƯưYy", "ÃÑÕãñõĨĩŨũṼṽẪẫẴẵẼẽỄễỖỗỠỡỮữỸỹ"),
    (0x304, "AaEeIiOoUuÜüÄäȦȧÆæǪǫÖöÕõȮȯYy", "ĀāĒēĪīŌōŪūǕǖǞǟǠǡǢǣǬǭȪȫȬȭȰȱȲȳ"),
    (0x304, "ИиУуGgḶḷṚṛαΑιΙυΥ", "ӢӣӮӯḠḡḸḹṜṝᾱᾹῑῙῡῩ"),
    (0x306, "AaEeGgIiOoUuУИиуЖжАаЕеȨȩẠạαΑ", "ĂăĔĕĞğĬĭŎŏŬŭЎЙйўӁӂӐӑӖӗḜḝẶặᾰᾸ"),
    (0x306, "ιΙυΥ", "ῐῘῠῨ"),
    (0x307, "CcEeGgIZzAaOoBbDdFfHhMmNnPpR", "ĊċĖėĠġİŻżȦȧȮȯḂḃḊḋḞḟḢḣṀṁṄṅṖṗṘ"),
    (0x307, "rSsŚśŠšṢṣTtWwXxYyſ𐗒𐗚", "ṙṠṡṤṥṦṧṨṩṪṫẆẇẊẋẎẏẛ𐗉𐗤"),
    (0x308, "AEIOUaeiouyYΙΥιυϒЕІеіАаӘәЖжЗ", "ÄËÏÖÜäëïöüÿŸΪΫϊϋϔЁЇёїӒӓӚӛӜӝӞ"),
    (0x308, "зИиОоӨөЭэУуЧчЫыHhÕõŪūWwXxt", "ӟӤӥӦӧӪӫӬӭӰӱӴӵӸӹḦḧṎṏṺṻẄẅẌẍẗ"),
    (0x309, "AaÂâĂăEeÊêIiOoÔôƠơUuƯưYy", "ẢảẨẩẲẳẺẻỂểỈỉỎỏỔổỞởỦủỬửỶỷ"),
    (0x30A, "AaUuwy", "ÅåŮůẘẙ"),
    (0x30B, "OoUuУу", "ŐőŰűӲӳ"),
    (0x30C, "CcDdEeLlNnRrSsTtZzAaIiOoUuÜü", "ČčĎďĚěĽľŇňŘřŠšŤťŽžǍǎǏǐǑǒǓǔǙǚ"),
    (0x30C, "GgKkƷʒjHh", "ǦǧǨǩǮǯǰȞȟ"),
    (0x30F, "AaEeIiOoRrUuѴѵ", "ȀȁȄȅȈȉȌȍȐȑȔȕѶѷ"),
    (0x311, "AaEeIiOoRrUu", "ȂȃȆȇȊȋȎȏȒȓȖȗ"),
    (0x313, "αΑεΕηΗιΙοΟυωΩρ", "ἀἈἐἘἠἨἰἸὀὈὐὠὨῤ"),
    (0x314, "αΑεΕηΗιΙοΟυΥωΩρΡ", "ἁἉἑἙἡἩἱἹὁὉὑὙὡὩῥῬ"),
    (0x31B, "OoUu", "ƠơƯư"),
    (0x323, "BbDdHhKkLlMmNnRrSsTtVvWwZzAa", "ḄḅḌḍḤḥḲḳḶḷṂṃṆṇṚṛṢṣṬṭṾṿẈẉẒẓẠạ"),
    (0x323, "EeIiOoƠơUuƯưYy", "ẸẹỊịỌọỢợỤụỰựỴỵ"),
    (0x324, "Uu", "Ṳṳ"),
    (0x325, "Aa", "Ḁḁ"),
    (0x326, "SsTt", "ȘșȚț"),
    (0x327, "CcGgKkLlNnRrSsTtEeDdHh", "ÇçĢģĶķĻļŅņŖŗŞşŢţȨȩḐḑḨḩ"),
    (0x328, "AaEeIiUuOo", "ĄąĘęĮįŲųǪǫ"),
    (0x32D, "DdEeLlNnTtUu", "ḒḓḘḙḼḽṊṋṰṱṶṷ"),
    (0x32E, "Hh", "Ḫḫ"),
    (0x330, "EeIiUu", "ḚḛḬḭṴṵ"),
    (0x331, "BbDdKkLlNnRrTtZzh", "ḆḇḎḏḴḵḺḻṈṉṞṟṮṯẔẕẖ"),
    (0x338, "←→↔⇐⇔⇒∃∈∋∣∥∼≃≅≈=≡≍<>≤≥≲≳≶≷≺≻", "↚↛↮⇍⇎⇏∄∉∌∤∦≁≄≇≉≠≢≭≮≯≰≱≴≵≸≹⊀⊁"),
    (0x338, "⊂⊃⊆⊇⊢⊨⊩⊫≼≽⊑⊒⊲⊳⊴⊵", "⊄⊅⊈⊉⊬⊭⊮⊯⋠⋡⋢⋣⋪⋫⋬⋭"),
    (0x342, "ἀἁἈἉἠἡἨἩἰἱἸἹὐὑὙὠὡὨὩα¨η᾿ιϊ῾υϋ", "ἆἇἎἏἦἧἮἯἶἷἾἿὖὗὟὦὧὮὯᾶ῁ῆ῏ῖῗ῟ῦῧ"),
    (0x342, "ω", "ῶ"),
    (0x345, "ἀἁἂἃἄἅἆἇἈἉἊἋἌἍἎἏἠἡἢἣἤἥἦἧἨἩἪἫ", "ᾀᾁᾂᾃᾄᾅᾆᾇᾈᾉᾊᾋᾌᾍᾎᾏᾐᾑᾒᾓᾔᾕᾖᾗᾘᾙᾚᾛ"),
    (0x345, "ἬἭἮἯὠὡὢὣὤὥὦὧὨὩὪὫὬὭὮὯὰαάᾶΑὴηή", "ᾜᾝᾞᾟᾠᾡᾢᾣᾤᾥᾦᾧᾨᾩᾪᾫᾬᾭᾮᾯᾲᾳᾴᾷᾼῂῃῄ"),
    (0x345, "ῆΗὼωώῶΩ", "ῇῌῲῳῴῷῼ"),
    (0x653, "\u0627", "\u0622"),
    (0x654, "\u0627\u0648\u064a\u06d5\u06c1\u06d2", "\u0623\u0624\u0626\u06c0\u06c2\u06d3"),
    (0x655, "\u0627", "\u0625"),
    (0x93C, "नरळ", "ऩऱऴ"),
    (0x9BE, "\u09c7", "\u09cb"),
    (0x9D7, "\u09c7", "\u09cc"),
    (0xB3E, "\u0b47", "\u0b4b"),
    (0xB56, "\u0b47", "\u0b48"),
    (0xB57, "\u0b47", "\u0b4c"),
    (0xBBE, "\u0bc6\u0bc7", "\u0bca\u0bcb"),
    (0xBD7, "ஒ\u0bc6", "ஔ\u0bcc"),
    (0xC56, "\u0c46", "\u0c48"),
    (0xCC2, "\u0cc6", "\u0cca"),
    (0xCD5, "\u0cbf\u0cc6\u0cca", "\u0cc0\u0cc7\u0ccb"),
    (0xCD6, "\u0cc6", "\u0cc8"),
    (0xD3E, "\u0d46\u0d47", "\u0d4a\u0d4b"),
    (0xD57, "\u0d46", "\u0d4c"),
    (0xDCA, "\u0dd9\u0ddc", "\u0dda\u0ddd"),
    (0xDCF, "\u0dd9", "\u0ddc"),
    (0xDDF, "\u0dd9", "\u0dde"),
    (0x102E, "ဥ", "ဦ"),
    (0x1B35, "ᬅᬇᬉᬋᬍᬑ\u1b3a\u1b3c\u1b3e\u1b3f\u1b42", "ᬆᬈᬊᬌᬎᬒ\u1b3b\u1b3d\u1b40\u1b41\u1b43"),
    (0x3099, "かきくけこさしすせそたちつてとはひふへほうゝカキクケコサ", "がぎぐげござじずぜぞだぢづでどばびぶべぼゔゞガギグゲゴザ"),
    (0x3099, "シスセソタチツテトハヒフヘホウワヰヱヲヽ", "ジズゼゾダヂヅデドバビブベボヴヷヸヹヺヾ"),
    (0x309A, "はひふへほハヒフヘホ", "ぱぴぷぺぽパピプペポ"),
    (0x110BA, "𑂙𑂛𑂥", "𑂚𑂜𑂫"),
    (0x113BB, "𑎄", "𑎅"),
    (0x16D67, "𖵧𖵣𖵩", "𖵨𖵩𖵪")
  ]

/-- Pairs beyond the basic plane: first, second and composite. -/
def furtherPairs : List (Nat × Nat × Nat) :=
  [(0x11131, 0x11127, 0x1112E), (0x11132, 0x11127, 0x1112F), (0x11347, 0x1133E, 0x1134B),
   (0x11347, 0x11357, 0x1134C), (0x113C2, 0x113B8, 0x113C7), (0x1138B, 0x113C2, 0x1138E),
   (0x113C2, 0x113C2, 0x113C5), (0x11382, 0x113C9, 0x11383), (0x11390, 0x113C9, 0x11391),
   (0x113C2, 0x113C9, 0x113C8), (0x114B9, 0x114B0, 0x114BC), (0x114B9, 0x114BA, 0x114BB),
   (0x114B9, 0x114BD, 0x114BE), (0x115B8, 0x115AF, 0x115BA), (0x115B9, 0x115AF, 0x115BB),
   (0x11935, 0x11930, 0x11938), (0x1611E, 0x1611E, 0x16121), (0x1611E, 0x1611F, 0x16123),
   (0x16129, 0x1611F, 0x16124), (0x16121, 0x1611F, 0x16126), (0x16122, 0x1611F, 0x16127),
   (0x1611E, 0x16120, 0x16125), (0x16121, 0x16120, 0x16128), (0x1611E, 0x16129, 0x16122)]

/-- A composite and its pair. -/
structure Composite where
  /-- The first character. -/
  first : Char
  /-- The second character. -/
  second : Char
  /-- The composite. -/
  whole : Char

/-- All composites that are listed. -/
def composites : List Composite :=
  (pairRows.flatMap fun (second, firsts, wholes) ↦
    (firsts.toList.zip wholes.toList).map fun (first, whole) ↦
      ⟨first, Char.ofNat second, whole⟩) ++
  furtherPairs.map fun (first, second, whole) ↦
    ⟨Char.ofNat first, Char.ofNat second, Char.ofNat whole⟩

end AuditFeed.Text
