/-!
# Characters that are composed of two

The pairs of characters that one character stands for, by the second of the pair. Korean syllables
are not in the table, because they are computed.
-/

namespace Launchpad.Text

/-- Pairs that are written as one character: the code point of the second, the characters that it
may follow, and what each of them becomes. -/
def compositionRows : List (Nat × String × String) := [
  (0x300, "AEIOUaeiouÜüNnЕИеиĒēŌōWwÂâĂăÊêÔôƠơƯư", "ÀÈÌÒÙàèìòùǛǜǸǹЀЍѐѝḔḕṐṑẀẁẦầẰằỀềỒồỜờỪừ"),
  (0x300, "YyἀἁἈἉἐἑἘἙἠἡἨἩἰἱἸἹὀὁὈὉὐὑὙὠὡὨὩαεηιουω", "ỲỳἂἃἊἋἒἓἚἛἢἣἪἫἲἳἺἻὂὃὊὋὒὓὛὢὣὪὫὰὲὴὶὸὺὼ"),
  (0x300, "ΑΕΗ᾿ϊΙ῾ϋΥ¨ΟΩ", "ᾺῈῊ῍ῒῚ῝ῢῪ῭ῸῺ"),
  (0x301, "AEIOUYaeiouyCcLlNnRrSsZzÜüGgÅåÆæØø¨Α", "ÁÉÍÓÚÝáéíóúýĆćĹĺŃńŔŕŚśŹźǗǘǴǵǺǻǼǽǾǿ΅Ά"),
  (0x301, "ΕΗΙΟΥΩϊαεηιϋουωϒГКгкÇçĒēÏïKkMmÕõŌōPp", "ΈΉΊΌΎΏΐάέήίΰόύώϓЃЌѓќḈḉḖḗḮḯḰḱḾḿṌṍṒṓṔṕ"),
  (0x301, "ŨũWwÂâĂăÊêÔôƠơƯưἀἁἈἉἐἑἘἙἠἡἨἩἰἱἸἹὀὁὈὉ", "ṸṹẂẃẤấẮắẾếỐốỚớỨứἄἅἌἍἔἕἜἝἤἥἬἭἴἵἼἽὄὅὌὍ"),
  (0x301, "ὐὑὙὠὡὨὩ᾿῾", "ὔὕὝὤὥὬὭ῎῞"),
  (0x302, "AEIOUaeiouCcGgHhJjSsWwYyZzẠạẸẹỌọ", "ÂÊÎÔÛâêîôûĈĉĜĝĤĥĴĵŜŝŴŵŶŷẐẑẬậỆệỘộ"),
  (0x303, "ANOanoIiUuVvÂâĂăEeÊêÔôƠơƯưYy", "ÃÑÕãñõĨĩŨũṼṽẪẫẴẵẼẽỄễỖỗỠỡỮữỸỹ"),
  (0x304, "AaEeIiOoUuÜüÄäȦȧÆæǪǫÖöÕõȮȯYyИиУуGgḶḷ", "ĀāĒēĪīŌōŪūǕǖǞǟǠǡǢǣǬǭȪȫȬȭȰȱȲȳӢӣӮӯḠḡḸḹ"),
  (0x304, "ṚṛαΑιΙυΥ", "ṜṝᾱᾹῑῙῡῩ"),
  (0x306, "AaEeGgIiOoUuУИиуЖжАаЕеȨȩẠạαΑιΙυΥ", "ĂăĔĕĞğĬĭŎŏŬŭЎЙйўӁӂӐӑӖӗḜḝẶặᾰᾸῐῘῠῨ"),
  (0x307, "CcEeGgIZzAaOoBbDdFfHhMmNnPpRrSsŚśŠšṢ", "ĊċĖėĠġİŻżȦȧȮȯḂḃḊḋḞḟḢḣṀṁṄṅṖṗṘṙṠṡṤṥṦṧṨ"),
  (0x307, "ṣTtWwXxYyſ𐗒𐗚", "ṩṪṫẆẇẊẋẎẏẛ𐗉𐗤"),
  (0x308, "AEIOUaeiouyYΙΥιυϒЕІеіАаӘәЖжЗзИиОоӨөЭ", "ÄËÏÖÜäëïöüÿŸΪΫϊϋϔЁЇёїӒӓӚӛӜӝӞӟӤӥӦӧӪӫӬ"),
  (0x308, "эУуЧчЫыHhÕõŪūWwXxt", "ӭӰӱӴӵӸӹḦḧṎṏṺṻẄẅẌẍẗ"),
  (0x309, "AaÂâĂăEeÊêIiOoÔôƠơUuƯưYy", "ẢảẨẩẲẳẺẻỂểỈỉỎỏỔổỞởỦủỬửỶỷ"),
  (0x30a, "AaUuwy", "ÅåŮůẘẙ"),
  (0x30b, "OoUuУу", "ŐőŰűӲӳ"),
  (0x30c, "CcDdEeLlNnRrSsTtZzAaIiOoUuÜüGgKkƷʒjH", "ČčĎďĚěĽľŇňŘřŠšŤťŽžǍǎǏǐǑǒǓǔǙǚǦǧǨǩǮǯǰȞ"),
  (0x30c, "h", "ȟ"),
  (0x30f, "AaEeIiOoRrUuѴѵ", "ȀȁȄȅȈȉȌȍȐȑȔȕѶѷ"),
  (0x311, "AaEeIiOoRrUu", "ȂȃȆȇȊȋȎȏȒȓȖȗ"),
  (0x313, "αΑεΕηΗιΙοΟυωΩρ", "ἀἈἐἘἠἨἰἸὀὈὐὠὨῤ"),
  (0x314, "αΑεΕηΗιΙοΟυΥωΩρΡ", "ἁἉἑἙἡἩἱἹὁὉὑὙὡὩῥῬ"),
  (0x31b, "OoUu", "ƠơƯư"),
  (0x323, "BbDdHhKkLlMmNnRrSsTtVvWwZzAaEeIiOoƠơ", "ḄḅḌḍḤḥḲḳḶḷṂṃṆṇṚṛṢṣṬṭṾṿẈẉẒẓẠạẸẹỊịỌọỢợ"),
  (0x323, "UuƯưYy", "ỤụỰựỴỵ"),
  (0x324, "Uu", "Ṳṳ"),
  (0x325, "Aa", "Ḁḁ"),
  (0x326, "SsTt", "ȘșȚț"),
  (0x327, "CcGgKkLlNnRrSsTtEeDdHh", "ÇçĢģĶķĻļŅņŖŗŞşŢţȨȩḐḑḨḩ"),
  (0x328, "AaEeIiUuOo", "ĄąĘęĮįŲųǪǫ"),
  (0x32d, "DdEeLlNnTtUu", "ḒḓḘḙḼḽṊṋṰṱṶṷ"),
  (0x32e, "Hh", "Ḫḫ"),
  (0x330, "EeIiUu", "ḚḛḬḭṴṵ"),
  (0x331, "BbDdKkLlNnRrTtZzh", "ḆḇḎḏḴḵḺḻṈṉṞṟṮṯẔẕẖ"),
  (0x338, "←→↔⇐⇔⇒∃∈∋∣∥∼≃≅≈=≡≍<>≤≥≲≳≶≷≺≻⊂⊃⊆⊇⊢⊨⊩⊫", "↚↛↮⇍⇎⇏∄∉∌∤∦≁≄≇≉≠≢≭≮≯≰≱≴≵≸≹⊀⊁⊄⊅⊈⊉⊬⊭⊮⊯"),
  (0x338, "≼≽⊑⊒⊲⊳⊴⊵", "⋠⋡⋢⋣⋪⋫⋬⋭"),
  (0x342, "ἀἁἈἉἠἡἨἩἰἱἸἹὐὑὙὠὡὨὩα¨η᾿ιϊ῾υϋω", "ἆἇἎἏἦἧἮἯἶἷἾἿὖὗὟὦὧὮὯᾶ῁ῆ῏ῖῗ῟ῦῧῶ"),
  (0x345, "ἀἁἂἃἄἅἆἇἈἉἊἋἌἍἎἏἠἡἢἣἤἥἦἧἨἩἪἫἬἭἮἯὠὡὢὣ", "ᾀᾁᾂᾃᾄᾅᾆᾇᾈᾉᾊᾋᾌᾍᾎᾏᾐᾑᾒᾓᾔᾕᾖᾗᾘᾙᾚᾛᾜᾝᾞᾟᾠᾡᾢᾣ"),
  (0x345, "ὤὥὦὧὨὩὪὫὬὭὮὯὰαάᾶΑὴηήῆΗὼωώῶΩ", "ᾤᾥᾦᾧᾨᾩᾪᾫᾬᾭᾮᾯᾲᾳᾴᾷᾼῂῃῄῇῌῲῳῴῷῼ"),
  (0x653, "ا", "آ"),
  (0x654, "اويەہے", "أؤئۀۂۓ"),
  (0x655, "ا", "إ"),
  (0x93c, "नरळ", "ऩऱऴ"),
  (0x9be, "\u09c7", "\u09cb"),
  (0x9d7, "\u09c7", "\u09cc"),
  (0xb3e, "\u0b47", "\u0b4b"),
  (0xb56, "\u0b47", "\u0b48"),
  (0xb57, "\u0b47", "\u0b4c"),
  (0xbbe, "\u0bc6\u0bc7", "\u0bca\u0bcb"),
  (0xbd7, "ஒ\u0bc6", "ஔ\u0bcc"),
  (0xc56, "\u0c46", "\u0c48"),
  (0xcc2, "\u0cc6", "\u0cca"),
  (0xcd5, "\u0cbf\u0cc6\u0cca", "\u0cc0\u0cc7\u0ccb"),
  (0xcd6, "\u0cc6", "\u0cc8"),
  (0xd3e, "\u0d46\u0d47", "\u0d4a\u0d4b"),
  (0xd57, "\u0d46", "\u0d4c"),
  (0xdca, "\u0dd9\u0ddc", "\u0dda\u0ddd"),
  (0xdcf, "\u0dd9", "\u0ddc"),
  (0xddf, "\u0dd9", "\u0dde"),
  (0x102e, "ဥ", "ဦ"),
  (0x1b35, "ᬅᬇᬉᬋᬍᬑ\u1b3a\u1b3c\u1b3e\u1b3f\u1b42", "ᬆᬈᬊᬌᬎᬒ\u1b3b\u1b3d\u1b40\u1b41\u1b43"),
  (0x3099, "かきくけこさしすせそたちつてとはひふへほうゝカキクケコサシスセソタチツテ", "がぎぐげござじずぜぞだぢづでどばびぶべぼゔゞガギグゲゴザジズゼゾダヂヅデ"),
  (0x3099, "トハヒフヘホウワヰヱヲヽ", "ドバビブベボヴヷヸヹヺヾ"),
  (0x309a, "はひふへほハヒフヘホ", "ぱぴぷぺぽパピプペポ"),
  (0x110ba, "𑂙𑂛𑂥", "𑂚𑂜𑂫"),
  (0x11127, "𑄱𑄲", "𑄮𑄯"),
  (0x1133e, "𑍇", "𑍋"),
  (0x11357, "𑍇", "𑍌"),
  (0x113b8, "𑏂", "𑏇"),
  (0x113bb, "𑎄", "𑎅"),
  (0x113c2, "𑎎", "𑎎𑏅"),
  (0x113c9, "𑎂𑎐𑏂", "𑎃𑎑𑏈"),
  (0x114b0, "𑒹", "𑒼"),
  (0x114ba, "𑒹", "𑒻"),
  (0x114bd, "𑒹", "𑒾"),
  (0x115af, "𑖸𑖹", "𑖺𑖻"),
  (0x11930, "𑤵", "𑤸"),
  (0x1611e, "𖄞", "𖄡"),
  (0x1611f, "𖄢𖄡𖄢", "𖄣𖄤𖄦𖄧"),
  (0x16120, "𖄡𖄞", "𖄥𖄨"),
  (0x16129, "𖄞", "𖄢"),
  (0x16d67, "𖵧𖵣𖵩", "𖵨𖵩𖵪")]

/-- A character and the two that it is composed of. -/
structure Composition where
  first : Char
  second : Char
  whole : Char
  deriving DecidableEq, Repr

def compositions : List Composition :=
  compositionRows.flatMap fun (second, firsts, wholes) =>
    (firsts.toList.zip wholes.toList).map fun (first, whole) =>
      { first, second := Char.ofNat second, whole }

end Launchpad.Text
