/-!
# Tables for the preparation of names

What characters of names become before the names are spelled, and which characters stand in the
way.
-/

namespace Tweaks.Text

/-- What characters become, from a first one on, with daggers between them. -/
def preparedRuns : List (Nat × String) := [
  (0x41, "a†b†c†d†e†f†g†h†i†j†k†l†m†n†o†p†q†r†s†t†u†v†w†x†y†z"), (0xa0, " "), (0xa8, " \u0308†©†a"),
  (0xaf, " \u0304†°†±†2†3† \u0301†μ†¶†·† \u0327†1†o†»†1⁄4†1⁄2†3⁄4†¿†a\u0300†a\u0301†a\u0302†a" ++
    "\u0303†a\u0308†a\u030a†æ†c\u0327†e\u0300†e\u0301†e\u0302†e\u0308†i\u0300†i\u0301†i\u0302†i" ++
    "\u0308†ð†n\u0303†o\u0300†o\u0301†o\u0302†o\u0303†o\u0308†×†ø†u\u0300†u\u0301†u\u0302†u" ++
    "\u0308†y\u0301†þ†ss†a\u0300†a\u0301†a\u0302†a\u0303†a\u0308†a\u030a†æ†c\u0327†e\u0300†e" ++
    "\u0301†e\u0302†e\u0308†i\u0300†i\u0301†i\u0302†i\u0308†ð†n\u0303†o\u0300†o\u0301†o\u0302†o" ++
    "\u0303†o\u0308†÷†ø†u\u0300†u\u0301†u\u0302†u\u0308†y\u0301†þ†y\u0308†a\u0304†a\u0304†a" ++
    "\u0306†a\u0306†a\u0328†a\u0328†c\u0301†c\u0301†c\u0302†c\u0302†c\u0307†c\u0307†c\u030c†c" ++
    "\u030c†d\u030c†d\u030c†đ†đ†e\u0304†e\u0304†e\u0306†e\u0306†e\u0307†e\u0307†e\u0328†e\u0328" ++
    "†e\u030c†e\u030c†g\u0302†g\u0302†g\u0306†g\u0306†g\u0307†g\u0307†g\u0327†g\u0327†h\u0302†h" ++
    "\u0302†ħ†ħ†i\u0303†i\u0303†i\u0304†i\u0304†i\u0306†i\u0306†i\u0328†i\u0328†i\u0307†ı†ij†ij" ++
    "†j\u0302†j\u0302†k\u0327†k\u0327†ĸ†l\u0301†l\u0301†l\u0327†l\u0327†l\u030c†l\u030c†l·†l·†ł" ++
    "†ł†n\u0301†n\u0301†n\u0327†n\u0327†n\u030c†n\u030c†ʼn†ŋ†ŋ†o\u0304†o\u0304†o\u0306†o\u0306†" ++
    "o\u030b†o\u030b†œ†œ†r\u0301†r\u0301†r\u0327†r\u0327†r\u030c†r\u030c†s\u0301†s\u0301†s" ++
    "\u0302†s\u0302†s\u0327†s\u0327†s\u030c†s\u030c†t\u0327†t\u0327†t\u030c†t\u030c†ŧ†ŧ†u\u0303" ++
    "†u\u0303†u\u0304†u\u0304†u\u0306†u\u0306†u\u030a†u\u030a†u\u030b†u\u030b†u\u0328†u\u0328†w" ++
    "\u0302†w\u0302†y\u0302†y\u0302†y\u0308†z\u0301†z\u0301†z\u0307†z\u0307†z\u030c†z\u030c†s†ƀ" ++
    "†ɓ†ƃ†ƃ†ƅ†ƅ†ɔ†ƈ†ƈ†ɖ†ɗ†ƌ†ƌ†ƍ†ǝ†ə†ɛ†ƒ†ƒ†ɠ†ɣ†ƕ†ɩ†ɨ†ƙ†ƙ†ƚ†ƛ†ɯ†ɲ†ƞ†ɵ†o\u031b†o\u031b†ƣ†ƣ†ƥ†ƥ†ʀ†ƨ" ++
    "†ƨ†ʃ†ƪ†ƫ†ƭ†ƭ†ʈ†u\u031b†u\u031b†ʊ†ʋ†ƴ†ƴ†ƶ†ƶ†ʒ†ƹ†ƹ†ƺ†ƻ†ƽ"),
  (0x1c4, "dz\u030c†dz\u030c†dz\u030c†lj†lj†lj†nj†nj†nj†a\u030c†a\u030c†i\u030c†i\u030c†o" ++
    "\u030c†o\u030c†u\u030c†u\u030c†u\u0308\u0304†u\u0308\u0304†u\u0308\u0301†u\u0308\u0301†u" ++
    "\u0308\u030c†u\u0308\u030c†u\u0308\u0300†u\u0308\u0300†ǝ†a\u0308\u0304†a\u0308\u0304†a" ++
    "\u0307\u0304†a\u0307\u0304†æ\u0304†æ\u0304†ǥ†ǥ†g\u030c†g\u030c†k\u030c†k\u030c†o\u0328†o" ++
    "\u0328†o\u0328\u0304†o\u0328\u0304†ʒ\u030c†ʒ\u030c†j\u030c†dz†dz†dz†g\u0301†g\u0301†ƕ†ƿ†n" ++
    "\u0300†n\u0300†a\u030a\u0301†a\u030a\u0301†æ\u0301†æ\u0301†ø\u0301†ø\u0301†a\u030f†a\u030f" ++
    "†a\u0311†a\u0311†e\u030f†e\u030f†e\u0311†e\u0311†i\u030f†i\u030f†i\u0311†i\u0311†o\u030f†o" ++
    "\u030f†o\u0311†o\u0311†r\u030f†r\u030f†r\u0311†r\u0311†u\u030f†u\u030f†u\u0311†u\u0311†s" ++
    "\u0326†s\u0326†t\u0326†t\u0326†ȝ†ȝ†h\u030c†h\u030c†ƞ†ȡ†ȣ†ȣ†ȥ†ȥ†a\u0307†a\u0307†e\u0327†e" ++
    "\u0327†o\u0308\u0304†o\u0308\u0304†o\u0303\u0304†o\u0303\u0304†o\u0307†o\u0307†o\u0307" ++
    "\u0304†o\u0307\u0304†y\u0304†y\u0304"), (0x23a, "ⱥ†ȼ†ȼ†ƚ†ⱦ†ȿ†ɀ†ɂ†ɂ†ƀ†ʉ†ʌ†ɇ†ɇ†ɉ†ɉ†ɋ†ɋ†ɍ†ɍ†ɏ"),
  (0x2b0, "h†ɦ†j†r†ɹ†ɻ†ʁ†w†y"),
  (0x2d8, " \u0306† \u0307† \u030a† \u0328† \u0303† \u030b†˞†˟†ɣ†l†s†x†ʕ"),
  (0x340, "\u0300†\u0301†\u0342†\u0313†\u0308\u0301†ι"),
  (0x370, "ͱ†ͱ†ͳ†ͳ†ʹ†͵†ͷ†ͷ†\u0378†\u0379† ι†ͻ†ͼ†ͽ†;†ϳ"),
  (0x384, " \u0301† \u0308\u0301†α\u0301†·†ε\u0301†η\u0301†ι\u0301†\u038b†ο\u0301†\u038d†υ" ++
    "\u0301†ω\u0301†ι\u0308\u0301†α†β†γ†δ†ε†ζ†η†θ†ι†κ†λ†μ†ν†ξ†ο†π†ρ†\u03a2†σ†τ†υ†φ†χ†ψ†ω†ι" ++
    "\u0308†υ\u0308†α\u0301†ε\u0301†η\u0301†ι\u0301†υ\u0308\u0301"), (0x3c2, "σ"),
  (0x3ca, "ι\u0308†υ\u0308†ο\u0301†υ\u0301†ω\u0301†ϗ†β†θ†υ†υ\u0301†υ\u0308†φ†π†ϗ†ϙ†ϙ†ϛ†ϛ†ϝ†ϝ†ϟ" ++
    "†ϟ†ϡ†ϡ†ϣ†ϣ†ϥ†ϥ†ϧ†ϧ†ϩ†ϩ†ϫ†ϫ†ϭ†ϭ†ϯ†ϯ†κ†ρ†σ†ϳ†θ†ε†϶†ϸ†ϸ†σ†ϻ†ϻ†ϼ†ͻ†ͼ†ͽ†е\u0300†е\u0308†ђ†г" ++
    "\u0301†є†ѕ†і†і\u0308†ј†љ†њ†ћ†к\u0301†и\u0300†у\u0306†џ†а†б†в†г†д†е†ж†з†и†и\u0306†к†л†м†н†о" ++
    "†п†р†с†т†у†ф†х†ц†ч†ш†щ†ъ†ы†ь†э†ю†я"), (0x439, "и\u0306"),
  (0x450, "е\u0300†е\u0308†ђ†г\u0301†є†ѕ†і†і\u0308"),
  (0x45c, "к\u0301†и\u0300†у\u0306†џ†ѡ†ѡ†ѣ†ѣ†ѥ†ѥ†ѧ†ѧ†ѩ†ѩ†ѫ†ѫ†ѭ†ѭ†ѯ†ѯ†ѱ†ѱ†ѳ†ѳ†ѵ†ѵ†ѵ\u030f†ѵ" ++
    "\u030f†ѹ†ѹ†ѻ†ѻ†ѽ†ѽ†ѿ†ѿ†ҁ"),
  (0x48a, "ҋ†ҋ†ҍ†ҍ†ҏ†ҏ†ґ†ґ†ғ†ғ†ҕ†ҕ†җ†җ†ҙ†ҙ†қ†қ†ҝ†ҝ†ҟ†ҟ†ҡ†ҡ†ң†ң†ҥ†ҥ†ҧ†ҧ†ҩ†ҩ†ҫ†ҫ†ҭ†ҭ†ү†ү†ұ†ұ†ҳ†ҳ" ++
    "†ҵ†ҵ†ҷ†ҷ†ҹ†ҹ†һ†һ†ҽ†ҽ†ҿ†ҿ†ӏ†ж\u0306†ж\u0306†ӄ†ӄ†ӆ†ӆ†ӈ†ӈ†ӊ†ӊ†ӌ†ӌ†ӎ†ӎ†ӏ†а\u0306†а\u0306†а" ++
    "\u0308†а\u0308†ӕ†ӕ†е\u0306†е\u0306†ә†ә†ә\u0308†ә\u0308†ж\u0308†ж\u0308†з\u0308†з\u0308†ӡ†ӡ" ++
    "†и\u0304†и\u0304†и\u0308†и\u0308†о\u0308†о\u0308†ө†ө†ө\u0308†ө\u0308†э\u0308†э\u0308†у" ++
    "\u0304†у\u0304†у\u0308†у\u0308†у\u030b†у\u030b†ч\u0308†ч\u0308†ӷ†ӷ†ы\u0308†ы\u0308†ӻ†ӻ†ӽ†ӽ" ++
    "†ӿ†ӿ†ԁ†ԁ†ԃ†ԃ†ԅ†ԅ†ԇ†ԇ†ԉ†ԉ†ԋ†ԋ†ԍ†ԍ†ԏ†ԏ†ԑ†ԑ†ԓ†ԓ†ԕ†ԕ†ԗ†ԗ†ԙ†ԙ†ԛ†ԛ†ԝ†ԝ†ԟ†ԟ†ԡ†ԡ†ԣ†ԣ†ԥ†ԥ†ԧ†ԧ†ԩ†ԩ†ԫ" ++
    "†ԫ†ԭ†ԭ†ԯ†ԯ†\u0530†ա†բ†գ†դ†ե†զ†է†ը†թ†ժ†ի†լ†խ†ծ†կ†հ†ձ†ղ†ճ†մ†յ†ն†շ†ո†չ†պ†ջ†ռ†ս†վ†տ†ր†ց†ւ†փ†ք†" ++
    "օ†ֆ"), (0x587, "եւ"), (0x622, "ا\u0653†ا\u0654†و\u0654†ا\u0655†ي\u0654"),
  (0x675, "اٴ†وٴ†ۇٴ†يٴ"), (0x6c0, "ە\u0654†ہ†ہ\u0654"), (0x6d3, "ے\u0654"), (0x929, "न\u093c"),
  (0x931, "र\u093c†ल†ळ†ळ\u093c"),
  (0x958, "क\u093c†ख\u093c†ग\u093c†ज\u093c†ड\u093c†ढ\u093c†फ\u093c†य\u093c"),
  (0x9cb, "\u09c7\u09be†\u09c7\u09d7"), (0x9dc, "ড\u09bc†ঢ\u09bc†\u09de†য\u09bc"),
  (0xa33, "ਲ\u0a3c†\u0a34†ਵ†ਸ\u0a3c"), (0xa59, "ਖ\u0a3c†ਗ\u0a3c†ਜ\u0a3c†ੜ†\u0a5d†ਫ\u0a3c"),
  (0xb48, "\u0b47\u0b56†\u0b49†\u0b4a†\u0b47\u0b3e†\u0b47\u0b57"), (0xb5c, "ଡ\u0b3c†ଢ\u0b3c"),
  (0xb94, "ஒ\u0bd7"), (0xbca, "\u0bc6\u0bbe†\u0bc7\u0bbe†\u0bc6\u0bd7"), (0xc48, "\u0c46\u0c56"),
  (0xcc0, "\u0cbf\u0cd5"),
  (0xcc7, "\u0cc6\u0cd5†\u0cc6\u0cd6†\u0cc9†\u0cc6\u0cc2†\u0cc6\u0cc2\u0cd5"),
  (0xd4a, "\u0d46\u0d3e†\u0d47\u0d3e†\u0d46\u0d57"),
  (0xdda, "\u0dd9\u0dca†\u0ddb†\u0dd9\u0dcf†\u0dd9\u0dcf\u0dca†\u0dd9\u0ddf"), (0xe33, "\u0e4dา"),
  (0xeb3, "\u0ecdາ"), (0xedc, "ຫນ†ຫມ"), (0xf0c, "་"), (0xf43, "ག\u0fb7"), (0xf4d, "ཌ\u0fb7"),
  (0xf52, "ད\u0fb7"), (0xf57, "བ\u0fb7"), (0xf5c, "ཛ\u0fb7"), (0xf69, "ཀ\u0fb5"),
  (0xf73, "\u0f71\u0f72†\u0f74†\u0f71\u0f74†\u0fb2\u0f80†\u0fb2\u0f71\u0f80†\u0fb3\u0f80†" ++
    "\u0fb3\u0f71\u0f80"), (0xf81, "\u0f71\u0f80"), (0xf93, "\u0f92\u0fb7"),
  (0xf9d, "\u0f9c\u0fb7"), (0xfa2, "\u0fa1\u0fb7"), (0xfa7, "\u0fa6\u0fb7"),
  (0xfac, "\u0fab\u0fb7"), (0xfb9, "\u0f90\u0fb5"), (0x1026, "ဥ\u102e"),
  (0x10a0, "ⴀ†ⴁ†ⴂ†ⴃ†ⴄ†ⴅ†ⴆ†ⴇ†ⴈ†ⴉ†ⴊ†ⴋ†ⴌ†ⴍ†ⴎ†ⴏ†ⴐ†ⴑ†ⴒ†ⴓ†ⴔ†ⴕ†ⴖ†ⴗ†ⴘ†ⴙ†ⴚ†ⴛ†ⴜ†ⴝ†ⴞ†ⴟ†ⴠ†ⴡ†ⴢ†ⴣ†ⴤ†ⴥ†\u10c6" ++
    "†ⴧ"), (0x10cd, "ⴭ"),
  (0x13a0, "ꭰ†ꭱ†ꭲ†ꭳ†ꭴ†ꭵ†ꭶ†ꭷ†ꭸ†ꭹ†ꭺ†ꭻ†ꭼ†ꭽ†ꭾ†ꭿ†ꮀ†ꮁ†ꮂ†ꮃ†ꮄ†ꮅ†ꮆ†ꮇ†ꮈ†ꮉ†ꮊ†ꮋ†ꮌ†ꮍ†ꮎ†ꮏ†ꮐ†ꮑ†ꮒ†ꮓ†ꮔ†ꮕ†ꮖ†ꮗ†ꮘ†" ++
    "ꮙ†ꮚ†ꮛ†ꮜ†ꮝ†ꮞ†ꮟ†ꮠ†ꮡ†ꮢ†ꮣ†ꮤ†ꮥ†ꮦ†ꮧ†ꮨ†ꮩ†ꮪ†ꮫ†ꮬ†ꮭ†ꮮ†ꮯ†ꮰ†ꮱ†ꮲ†ꮳ†ꮴ†ꮵ†ꮶ†ꮷ†ꮸ†ꮹ†ꮺ†ꮻ†ꮼ†ꮽ†ꮾ†ꮿ†ᏸ†ᏹ†ᏺ†ᏻ†ᏼ†ᏽ"),
  (0x1c90, "ა†ბ†გ†დ†ე†ვ†ზ†თ†ი†კ†ლ†მ†ნ†ო†პ†ჟ†რ†ს†ტ†უ†ფ†ქ†ღ†ყ†შ†ჩ†ც†ძ†წ†ჭ†ხ†ჯ†ჰ†ჱ†ჲ†ჳ†ჴ†ჵ†ჶ†ჷ†ჸ†" ++
    "ჹ†ჺ†\u1cbb†\u1cbc†ჽ†ჾ†ჿ"),
  (0x1e00, "a\u0325†a\u0325†b\u0307†b\u0307†b\u0323†b\u0323†b\u0331†b\u0331†c\u0327\u0301†c" ++
    "\u0327\u0301†d\u0307†d\u0307†d\u0323†d\u0323†d\u0331†d\u0331†d\u0327†d\u0327†d\u032d†d" ++
    "\u032d†e\u0304\u0300†e\u0304\u0300†e\u0304\u0301†e\u0304\u0301†e\u032d†e\u032d†e\u0330†e" ++
    "\u0330†e\u0327\u0306†e\u0327\u0306†f\u0307†f\u0307†g\u0304†g\u0304†h\u0307†h\u0307†h\u0323" ++
    "†h\u0323†h\u0308†h\u0308†h\u0327†h\u0327†h\u032e†h\u032e†i\u0330†i\u0330†i\u0308\u0301†i" ++
    "\u0308\u0301†k\u0301†k\u0301†k\u0323†k\u0323†k\u0331†k\u0331†l\u0323†l\u0323†l\u0323\u0304" ++
    "†l\u0323\u0304†l\u0331†l\u0331†l\u032d†l\u032d†m\u0301†m\u0301†m\u0307†m\u0307†m\u0323†m" ++
    "\u0323†n\u0307†n\u0307†n\u0323†n\u0323†n\u0331†n\u0331†n\u032d†n\u032d†o\u0303\u0301†o" ++
    "\u0303\u0301†o\u0303\u0308†o\u0303\u0308†o\u0304\u0300†o\u0304\u0300†o\u0304\u0301†o\u0304" ++
    "\u0301†p\u0301†p\u0301†p\u0307†p\u0307†r\u0307†r\u0307†r\u0323†r\u0323†r\u0323\u0304†r" ++
    "\u0323\u0304†r\u0331†r\u0331†s\u0307†s\u0307†s\u0323†s\u0323†s\u0301\u0307†s\u0301\u0307†s" ++
    "\u030c\u0307†s\u030c\u0307†s\u0323\u0307†s\u0323\u0307†t\u0307†t\u0307†t\u0323†t\u0323†t" ++
    "\u0331†t\u0331†t\u032d†t\u032d†u\u0324†u\u0324†u\u0330†u\u0330†u\u032d†u\u032d†u\u0303" ++
    "\u0301†u\u0303\u0301†u\u0304\u0308†u\u0304\u0308†v\u0303†v\u0303†v\u0323†v\u0323†w\u0300†w" ++
    "\u0300†w\u0301†w\u0301†w\u0308†w\u0308†w\u0307†w\u0307†w\u0323†w\u0323†x\u0307†x\u0307†x" ++
    "\u0308†x\u0308†y\u0307†y\u0307†z\u0302†z\u0302†z\u0323†z\u0323†z\u0331†z\u0331†h\u0331†t" ++
    "\u0308†w\u030a†y\u030a†aʾ†s\u0307†ẜ†ẝ†ss†ẟ†a\u0323†a\u0323†a\u0309†a\u0309†a\u0302\u0301†a" ++
    "\u0302\u0301†a\u0302\u0300†a\u0302\u0300†a\u0302\u0309†a\u0302\u0309†a\u0302\u0303†a\u0302" ++
    "\u0303†a\u0323\u0302†a\u0323\u0302†a\u0306\u0301†a\u0306\u0301†a\u0306\u0300†a\u0306\u0300" ++
    "†a\u0306\u0309†a\u0306\u0309†a\u0306\u0303†a\u0306\u0303†a\u0323\u0306†a\u0323\u0306†e" ++
    "\u0323†e\u0323†e\u0309†e\u0309†e\u0303†e\u0303†e\u0302\u0301†e\u0302\u0301†e\u0302\u0300†e" ++
    "\u0302\u0300†e\u0302\u0309†e\u0302\u0309†e\u0302\u0303†e\u0302\u0303†e\u0323\u0302†e\u0323" ++
    "\u0302†i\u0309†i\u0309†i\u0323†i\u0323†o\u0323†o\u0323†o\u0309†o\u0309†o\u0302\u0301†o" ++
    "\u0302\u0301†o\u0302\u0300†o\u0302\u0300†o\u0302\u0309†o\u0302\u0309†o\u0302\u0303†o\u0302" ++
    "\u0303†o\u0323\u0302†o\u0323\u0302†o\u031b\u0301†o\u031b\u0301†o\u031b\u0300†o\u031b\u0300" ++
    "†o\u031b\u0309†o\u031b\u0309†o\u031b\u0303†o\u031b\u0303†o\u031b\u0323†o\u031b\u0323†u" ++
    "\u0323†u\u0323†u\u0309†u\u0309†u\u031b\u0301†u\u031b\u0301†u\u031b\u0300†u\u031b\u0300†u" ++
    "\u031b\u0309†u\u031b\u0309†u\u031b\u0303†u\u031b\u0303†u\u031b\u0323†u\u031b\u0323†y\u0300" ++
    "†y\u0300†y\u0323†y\u0323†y\u0309†y\u0309†y\u0303†y\u0303†ỻ†ỻ†ỽ†ỽ†ỿ†ỿ†α\u0313†α\u0314†α" ++
    "\u0313\u0300†α\u0314\u0300†α\u0313\u0301†α\u0314\u0301†α\u0313\u0342†α\u0314\u0342†α\u0313" ++
    "†α\u0314†α\u0313\u0300†α\u0314\u0300†α\u0313\u0301†α\u0314\u0301†α\u0313\u0342†α\u0314" ++
    "\u0342†ε\u0313†ε\u0314†ε\u0313\u0300†ε\u0314\u0300†ε\u0313\u0301†ε\u0314\u0301†\u1f16†" ++
    "\u1f17†ε\u0313†ε\u0314†ε\u0313\u0300†ε\u0314\u0300†ε\u0313\u0301†ε\u0314\u0301†\u1f1e†" ++
    "\u1f1f†η\u0313†η\u0314†η\u0313\u0300†η\u0314\u0300†η\u0313\u0301†η\u0314\u0301†η\u0313" ++
    "\u0342†η\u0314\u0342†η\u0313†η\u0314†η\u0313\u0300†η\u0314\u0300†η\u0313\u0301†η\u0314" ++
    "\u0301†η\u0313\u0342†η\u0314\u0342†ι\u0313†ι\u0314†ι\u0313\u0300†ι\u0314\u0300†ι\u0313" ++
    "\u0301†ι\u0314\u0301†ι\u0313\u0342†ι\u0314\u0342†ι\u0313†ι\u0314†ι\u0313\u0300†ι\u0314" ++
    "\u0300†ι\u0313\u0301†ι\u0314\u0301†ι\u0313\u0342†ι\u0314\u0342†ο\u0313†ο\u0314†ο\u0313" ++
    "\u0300†ο\u0314\u0300†ο\u0313\u0301†ο\u0314\u0301†\u1f46†\u1f47†ο\u0313†ο\u0314†ο\u0313" ++
    "\u0300†ο\u0314\u0300†ο\u0313\u0301†ο\u0314\u0301†\u1f4e†\u1f4f†υ\u0313†υ\u0314†υ\u0313" ++
    "\u0300†υ\u0314\u0300†υ\u0313\u0301†υ\u0314\u0301†υ\u0313\u0342†υ\u0314\u0342†\u1f58†υ" ++
    "\u0314†\u1f5a†υ\u0314\u0300†\u1f5c†υ\u0314\u0301†\u1f5e†υ\u0314\u0342†ω\u0313†ω\u0314†ω" ++
    "\u0313\u0300†ω\u0314\u0300†ω\u0313\u0301†ω\u0314\u0301†ω\u0313\u0342†ω\u0314\u0342†ω\u0313" ++
    "†ω\u0314†ω\u0313\u0300†ω\u0314\u0300†ω\u0313\u0301†ω\u0314\u0301†ω\u0313\u0342†ω\u0314" ++
    "\u0342†α\u0300†α\u0301†ε\u0300†ε\u0301†η\u0300†η\u0301†ι\u0300†ι\u0301†ο\u0300†ο\u0301†υ" ++
    "\u0300†υ\u0301†ω\u0300†ω\u0301†\u1f7e†\u1f7f†α\u0313ι†α\u0314ι†α\u0313\u0300ι†α\u0314" ++
    "\u0300ι†α\u0313\u0301ι†α\u0314\u0301ι†α\u0313\u0342ι†α\u0314\u0342ι†α\u0313ι†α\u0314ι†α" ++
    "\u0313\u0300ι†α\u0314\u0300ι†α\u0313\u0301ι†α\u0314\u0301ι†α\u0313\u0342ι†α\u0314\u0342ι†η" ++
    "\u0313ι†η\u0314ι†η\u0313\u0300ι†η\u0314\u0300ι†η\u0313\u0301ι†η\u0314\u0301ι†η\u0313\u0342" ++
    "ι†η\u0314\u0342ι†η\u0313ι†η\u0314ι†η\u0313\u0300ι†η\u0314\u0300ι†η\u0313\u0301ι†η\u0314" ++
    "\u0301ι†η\u0313\u0342ι†η\u0314\u0342ι†ω\u0313ι†ω\u0314ι†ω\u0313\u0300ι†ω\u0314\u0300ι†ω" ++
    "\u0313\u0301ι†ω\u0314\u0301ι†ω\u0313\u0342ι†ω\u0314\u0342ι†ω\u0313ι†ω\u0314ι†ω\u0313\u0300" ++
    "ι†ω\u0314\u0300ι†ω\u0313\u0301ι†ω\u0314\u0301ι†ω\u0313\u0342ι†ω\u0314\u0342ι†α\u0306†α" ++
    "\u0304†α\u0300ι†αι†α\u0301ι†\u1fb5†α\u0342†α\u0342ι†α\u0306†α\u0304†α\u0300†α\u0301†αι† " ++
    "\u0313†ι† \u0313† \u0342† \u0308\u0342†η\u0300ι†ηι†η\u0301ι†\u1fc5†η\u0342†η\u0342ι†ε" ++
    "\u0300†ε\u0301†η\u0300†η\u0301†ηι† \u0313\u0300† \u0313\u0301† \u0313\u0342†ι\u0306†ι" ++
    "\u0304†ι\u0308\u0300†ι\u0308\u0301†\u1fd4†\u1fd5†ι\u0342†ι\u0308\u0342†ι\u0306†ι\u0304†ι" ++
    "\u0300†ι\u0301†\u1fdc† \u0314\u0300† \u0314\u0301† \u0314\u0342†υ\u0306†υ\u0304†υ\u0308" ++
    "\u0300†υ\u0308\u0301†ρ\u0313†ρ\u0314†υ\u0342†υ\u0308\u0342†υ\u0306†υ\u0304†υ\u0300†υ\u0301" ++
    "†ρ\u0314† \u0308\u0300† \u0308\u0301†\x60†\u1ff0†\u1ff1†ω\u0300ι†ωι†ω\u0301ι†\u1ff5†ω" ++
    "\u0342†ω\u0342ι†ο\u0300†ο\u0301†ω\u0300†ω\u0301†ωι† \u0301† \u0314†\u1fff† † † † † † † † †" ++
    " † † "), (0x2011, "‐"), (0x2017, " \u0333"), (0x2024, ".†..†..."),
  (0x202f, " †‰†‱†′†′′†′′′†‵†‵‵†‵‵‵"), (0x203c, "!!†‽† \u0305"), (0x2047, "??†?!†!?"),
  (0x2057, "′′′′"), (0x205f, " "),
  (0x2070, "0†i†\u2072†\u2073†4†5†6†7†8†9†+†−†=†(†)†n†0†1†2†3†4†5†6†7†8†9†+†−†=†(†)"),
  (0x20a8, "rs"),
  (0x2100, "a/c†a/s†c†°c†℄†c/o†c/u†ɛ†℈†°f†g†h†h†h†h†ħ†i†i†l†l†℔†n†no†℗†℘†p†q†r†r†r†℞†℟†sm†tel†" ++
    "tm†℣†z†℥†ω†℧†z†℩†k†a\u030a†b†c†℮†e†e†f†ⅎ†m†o†א†ב†ג†ד†i†℺†℻†ℼ†γ†γ†π†∑"), (0x2145, "d†d†e†i†j"),
  (0x2153, "1⁄3†2⁄3†1⁄5†2⁄5†3⁄5†4⁄5†1⁄6†5⁄6†1⁄8†3⁄8†5⁄8†7⁄8†1⁄†i†ii†iii†iv†v†vi†vii†viii†ix†x†" ++
    "xi†xii†l†c†d†m†i†ii†iii†iv†v†vi†vii†viii†ix†x†xi†xii†l†c†d†m†ↀ†ↁ†ↂ†ↄ"),
  (0x219a, "←\u0338†→\u0338"), (0x21ae, "↔\u0338"), (0x21cd, "⇐\u0338†⇔\u0338†⇒\u0338"),
  (0x2204, "∃\u0338"), (0x2209, "∈\u0338†∊†∋†∋\u0338"), (0x2224, "∣\u0338†∥†∥\u0338"),
  (0x222c, "∫∫†∫∫∫†∮†∮∮†∮∮∮"), (0x2241, "∼\u0338†≂†≃†≃\u0338†≅†≆†≅\u0338†≈†≈\u0338"),
  (0x2260, "=\u0338†≡†≡\u0338"),
  (0x226d, "≍\u0338†<\u0338†>\u0338†≤\u0338†≥\u0338†≲†≳†≲\u0338†≳\u0338†≶†≷†≶\u0338†≷\u0338"),
  (0x2280, "≺\u0338†≻\u0338†⊂†⊃†⊂\u0338†⊃\u0338†⊆†⊇†⊆\u0338†⊇\u0338"),
  (0x22ac, "⊢\u0338†⊨\u0338†⊩\u0338†⊫\u0338"), (0x22e0, "≼\u0338†≽\u0338†⊑\u0338†⊒\u0338"),
  (0x22ea, "⊲\u0338†⊳\u0338†⊴\u0338†⊵\u0338"), (0x2329, "〈†〉"),
  (0x2460, "1†2†3†4†5†6†7†8†9†10†11†12†13†14†15†16†17†18†19†20†(1)†(2)†(3)†(4)†(5)†(6)†(7)†(8)" ++
    "†(9)†(10)†(11)†(12)†(13)†(14)†(15)†(16)†(17)†(18)†(19)†(20)†1.†2.†3.†4.†5.†6.†7.†8.†9.†10." ++
    "†11.†12.†13.†14.†15.†16.†17.†18.†19.†20.†(a)†(b)†(c)†(d)†(e)†(f)†(g)†(h)†(i)†(j)†(k)†(l)†(" ++
    "m)†(n)†(o)†(p)†(q)†(r)†(s)†(t)†(u)†(v)†(w)†(x)†(y)†(z)†a†b†c†d†e†f†g†h†i†j†k†l†m†n†o†p†q†r" ++
    "†s†t†u†v†w†x†y†z†a†b†c†d†e†f†g†h†i†j†k†l†m†n†o†p†q†r†s†t†u†v†w†x†y†z†0"), (0x2a0c, "∫∫∫∫"),
  (0x2a74, "::=†==†==="), (0x2adc, "⫝\u0338"),
  (0x2c00, "ⰰ†ⰱ†ⰲ†ⰳ†ⰴ†ⰵ†ⰶ†ⰷ†ⰸ†ⰹ†ⰺ†ⰻ†ⰼ†ⰽ†ⰾ†ⰿ†ⱀ†ⱁ†ⱂ†ⱃ†ⱄ†ⱅ†ⱆ†ⱇ†ⱈ†ⱉ†ⱊ†ⱋ†ⱌ†ⱍ†ⱎ†ⱏ†ⱐ†ⱑ†ⱒ†ⱓ†ⱔ†ⱕ†ⱖ†ⱗ†ⱘ†" ++
    "ⱙ†ⱚ†ⱛ†ⱜ†ⱝ†ⱞ†ⱟ"), (0x2c60, "ⱡ†ⱡ†ɫ†ᵽ†ɽ†ⱥ†ⱦ†ⱨ†ⱨ†ⱪ†ⱪ†ⱬ†ⱬ†ɑ†ɱ†ɐ†ɒ†ⱱ†ⱳ†ⱳ†ⱴ†ⱶ"),
  (0x2c7e, "ȿ†ɀ†ⲁ†ⲁ†ⲃ†ⲃ†ⲅ†ⲅ†ⲇ†ⲇ†ⲉ†ⲉ†ⲋ†ⲋ†ⲍ†ⲍ†ⲏ†ⲏ†ⲑ†ⲑ†ⲓ†ⲓ†ⲕ†ⲕ†ⲗ†ⲗ†ⲙ†ⲙ†ⲛ†ⲛ†ⲝ†ⲝ†ⲟ†ⲟ†ⲡ†ⲡ†ⲣ†ⲣ†ⲥ†ⲥ†ⲧ†" ++
    "ⲧ†ⲩ†ⲩ†ⲫ†ⲫ†ⲭ†ⲭ†ⲯ†ⲯ†ⲱ†ⲱ†ⲳ†ⲳ†ⲵ†ⲵ†ⲷ†ⲷ†ⲹ†ⲹ†ⲻ†ⲻ†ⲽ†ⲽ†ⲿ†ⲿ†ⳁ†ⳁ†ⳃ†ⳃ†ⳅ†ⳅ†ⳇ†ⳇ†ⳉ†ⳉ†ⳋ†ⳋ†ⳍ†ⳍ†ⳏ†ⳏ†ⳑ†ⳑ†ⳓ†ⳓ†" ++
    "ⳕ†ⳕ†ⳗ†ⳗ†ⳙ†ⳙ†ⳛ†ⳛ†ⳝ†ⳝ†ⳟ†ⳟ†ⳡ†ⳡ†ⳣ"), (0x2ceb, "ⳬ†ⳬ†ⳮ"), (0x2cf2, "ⳳ"), (0x2e9f, "母"),
  (0x2ef3, "龟"),
  (0x2f00, "一†丨†丶†丿†乙†亅†二†亠†人†儿†入†八†冂†冖†冫†几†凵†刀†力†勹†匕†匚†匸†十†卜†卩†厂†厶†又†口†囗†土†士†夂†夊†夕†大†女†子†宀†寸†" ++
    "小†尢†尸†屮†山†巛†工†己†巾†干†幺†广†廴†廾†弋†弓†彐†彡†彳†心†戈†戶†手†支†攴†文†斗†斤†方†无†日†曰†月†木†欠†止†歹†殳†毋†比†毛†氏†气†水†火†" ++
    "爪†父†爻†爿†片†牙†牛†犬†玄†玉†瓜†瓦†甘†生†用†田†疋†疒†癶†白†皮†皿†目†矛†矢†石†示†禸†禾†穴†立†竹†米†糸†缶†网†羊†羽†老†而†耒†耳†聿†肉†臣†" ++
    "自†至†臼†舌†舛†舟†艮†色†艸†虍†虫†血†行†衣†襾†見†角†言†谷†豆†豕†豸†貝†赤†走†足†身†車†辛†辰†辵†邑†酉†釆†里†金†長†門†阜†隶†隹†雨†靑†非†面†" ++
    "革†韋†韭†音†頁†風†飛†食†首†香†馬†骨†高†髟†鬥†鬯†鬲†鬼†魚†鳥†鹵†鹿†麥†麻†黃†黍†黑†黹†黽†鼎†鼓†鼠†鼻†齊†齒†龍†龜†龠"), (0x3000, " "),
  (0x3036, "〒†〷†十†卄†卅"),
  (0x304c, "か\u3099†き†き\u3099†く†く\u3099†け†け\u3099†こ†こ\u3099†さ†さ\u3099†し†し\u3099†す†す\u3099†せ†せ" ++
    "\u3099†そ†そ\u3099†た†た\u3099†ち†ち\u3099†っ†つ†つ\u3099†て†て\u3099†と†と\u3099"),
  (0x3070, "は\u3099†は\u309a†ひ†ひ\u3099†ひ\u309a†ふ†ふ\u3099†ふ\u309a†へ†へ\u3099†へ\u309a†ほ†ほ\u3099†ほ" ++
    "\u309a"), (0x3094, "う\u3099"), (0x309b, " \u3099† \u309a†ゝ†ゝ\u3099†より"),
  (0x30ac, "カ\u3099†キ†キ\u3099†ク†ク\u3099†ケ†ケ\u3099†コ†コ\u3099†サ†サ\u3099†シ†シ\u3099†ス†ス\u3099†セ†セ" ++
    "\u3099†ソ†ソ\u3099†タ†タ\u3099†チ†チ\u3099†ッ†ツ†ツ\u3099†テ†テ\u3099†ト†ト\u3099"),
  (0x30d0, "ハ\u3099†ハ\u309a†ヒ†ヒ\u3099†ヒ\u309a†フ†フ\u3099†フ\u309a†ヘ†ヘ\u3099†ヘ\u309a†ホ†ホ\u3099†ホ" ++
    "\u309a"), (0x30f4, "ウ\u3099†ヵ†ヶ†ワ\u3099†ヰ\u3099†ヱ\u3099†ヲ\u3099†・†ー†ヽ†ヽ\u3099†コト"),
  (0x3131, "ᄀ†ᄁ†ᆪ†ᄂ†ᆬ†ᆭ†ᄃ†ᄄ†ᄅ†ᆰ†ᆱ†ᆲ†ᆳ†ᆴ†ᆵ†ᄚ†ᄆ†ᄇ†ᄈ†ᄡ†ᄉ†ᄊ†ᄋ†ᄌ†ᄍ†ᄎ†ᄏ†ᄐ†ᄑ†ᄒ†ᅡ†ᅢ†ᅣ†ᅤ†ᅥ†ᅦ†ᅧ†ᅨ†ᅩ†ᅪ†ᅫ†" ++
    "ᅬ†ᅭ†ᅮ†ᅯ†ᅰ†ᅱ†ᅲ†ᅳ†ᅴ†ᅵ†ᅠ†ᄔ†ᄕ†ᇇ†ᇈ†ᇌ†ᇎ†ᇓ†ᇗ†ᇙ†ᄜ†ᇝ†ᇟ†ᄝ†ᄞ†ᄠ†ᄢ†ᄣ†ᄧ†ᄩ†ᄫ†ᄬ†ᄭ†ᄮ†ᄯ†ᄲ†ᄶ†ᅀ†ᅇ†ᅌ†ᇱ†ᇲ†ᅗ†ᅘ†ᅙ†" ++
    "ᆄ†ᆅ†ᆈ†ᆑ†ᆒ†ᆔ†ᆞ†ᆡ†\u318f†㆐†㆑†一†二†三†四†上†中†下†甲†乙†丙†丁†天†地†人"),
  (0x3200, "(ᄀ)†(ᄂ)†(ᄃ)†(ᄅ)†(ᄆ)†(ᄇ)†(ᄉ)†(ᄋ)†(ᄌ)†(ᄎ)†(ᄏ)†(ᄐ)†(ᄑ)†(ᄒ)†(가)†(나)†(다)†(라)†(마)†(" ++
    "바)†(사)†(아)†(자)†(차)†(카)†(타)†(파)†(하)†(주)†㈝†㈞†\u321f†(一)†(二)†(三)†(四)†(五)†(六)†(七)†(八" ++
    ")†(九)†(十)†(月)†(火)†(水)†(木)†(金)†(土)†(日)†(株)†(有)†(社)†(名)†(特)†(財)†(祝)†(労)†(代)†(呼)†(学)†(監)†(企)†" ++
    "(資)†(協)†(祭)†(休)†(自)†(至)"),
  (0x3251, "21†22†23†24†25†26†27†28†29†30†31†32†33†34†35†ᄀ†ᄂ†ᄃ†ᄅ†ᄆ†ᄇ†ᄉ†ᄋ†ᄌ†ᄎ†ᄏ†ᄐ†ᄑ†ᄒ†가†나†다†" ++
    "라†마†바†사†아†자†차†카†타†파†하"),
  (0x3280, "一†二†三†四†五†六†七†八†九†十†月†火†水†木†金†土†日†株†有†社†名†特†財†祝†労†秘†男†女†適†優†印†注†項†休†写†正†上†中†下†左†右†" ++
    "医†宗†学†監†企†資†協†夜†36†37†38†39†40†41†42†43†44†45†46†47†48†49†50†1月†2月†3月†4月†5月†6月†7月†8月†9月†10" ++
    "月†11月†12月"),
  (0x32d0, "ア†イ†ウ†エ†オ†カ†キ†ク†ケ†コ†サ†シ†ス†セ†ソ†タ†チ†ツ†テ†ト†ナ†ニ†ヌ†ネ†ノ†ハ†ヒ†フ†ヘ†ホ†マ†ミ†ム†メ†モ†ヤ†ユ†ヨ†ラ†リ†ル†" ++
    "レ†ロ†ワ†ヰ†ヱ†ヲ†㋿†アハ\u309aート†アルファ†アンヘ\u309aア†アール†イニンク\u3099†インチ†ウォン†エスクート\u3099†エーカー†オンス†オーム†カ" ++
    "イリ†カラット†カロリー†カ\u3099ロン†カ\u3099ンマ†キ\u3099カ\u3099†キ\u3099ニー†キュリー†キ\u3099ルタ\u3099ー†キロ†キロク" ++
    "\u3099ラム†キロメートル†キロワット†ク\u3099ラム†ク\u3099ラムトン†クルセ\u3099イロ†クローネ†ケース†コルナ†コーホ\u309a†サイクル†サンチーム†" ++
    "シリンク\u3099†センチ†セント†タ\u3099ース†テ\u3099シ†ト\u3099ル†トン†ナノ†ノット†ハイツ†ハ\u309aーセント†ハ\u309aーツ†ハ\u3099" ++
    "ーレル†ヒ\u309aアストル†ヒ\u309aクル†ヒ\u309aコ†ヒ\u3099ル†ファラット\u3099†フィート†フ\u3099ッシェル†フラン†ヘクタール†ヘ\u309a" ++
    "ソ†ヘ\u309aニヒ†ヘルツ†ヘ\u309aンス†ヘ\u309aーシ\u3099†ヘ\u3099ータ†ホ\u309aイント†ホ\u3099ルト†ホン†ホ\u309aント" ++
    "\u3099†ホール†ホーン†マイクロ†マイル†マッハ†マルク†マンション†ミクロン†ミリ†ミリハ\u3099ール†メカ\u3099†メカ\u3099トン†メートル†ヤート" ++
    "\u3099†ヤール†ユアン†リットル†リラ†ルヒ\u309aー†ルーフ\u3099ル†レム†レントケ\u3099ン†ワット†0点†1点†2点†3点†4点†5点†6点†7点†8点†" ++
    "9点†10点†11点†12点†13点†14点†15点†16点†17点†18点†19点†20点†21点†22点†23点†24点†hpa†da†au†bar†ov†pc"),
  (0x337b, "平成†昭和†大正†明治†株式会社†pa†na†μa†ma†ka†kb†mb†gb†cal†kcal†pf†nf†μf†μg†mg†kg†hz†khz†mhz†ghz" ++
    "†thz†μl†ml†dl†kl†fm†nm†μm†mm†cm†km†mm2†cm2†m2†km2†mm3†cm3†m3†km3†m∕s†m∕s2†pa†kpa†mpa†gpa†r" ++
    "ad†rad∕s†rad∕s2†ps†ns†μs†ms†pv†nv†μv†mv†kv†mv†pw†nw†μw†mw†kw†mw†kω†mω†a.m.†bq†cc†cd†c∕kg†c" ++
    "o.†db†gy†ha†hp†in†kk†km†kt†lm†ln†log†lx†mb†mil†mol†ph†p.m.†ppm†pr†sr†sv†wb†㏞†㏟†1日†2日†3日†4日" ++
    "†5日†6日†7日†8日†9日†10日†11日†12日†13日†14日†15日†16日†17日†18日†19日†20日†21日†22日†23日†24日†25日†26日†27日†28" ++
    "日†29日†30日†31日"),
  (0xa640, "ꙁ†ꙁ†ꙃ†ꙃ†ꙅ†ꙅ†ꙇ†ꙇ†ꙉ†ꙉ†ꙋ†ꙋ†ꙍ†ꙍ†ꙏ†ꙏ†ꙑ†ꙑ†ꙓ†ꙓ†ꙕ†ꙕ†ꙗ†ꙗ†ꙙ†ꙙ†ꙛ†ꙛ†ꙝ†ꙝ†ꙟ†ꙟ†ꙡ†ꙡ†ꙣ†ꙣ†ꙥ†ꙥ†ꙧ†ꙧ†ꙩ†" ++
    "ꙩ†ꙫ†ꙫ†ꙭ"), (0xa680, "ꚁ†ꚁ†ꚃ†ꚃ†ꚅ†ꚅ†ꚇ†ꚇ†ꚉ†ꚉ†ꚋ†ꚋ†ꚍ†ꚍ†ꚏ†ꚏ†ꚑ†ꚑ†ꚓ†ꚓ†ꚕ†ꚕ†ꚗ†ꚗ†ꚙ†ꚙ†ꚛ"),
  (0xa722, "ꜣ†ꜣ†ꜥ†ꜥ†ꜧ†ꜧ†ꜩ†ꜩ†ꜫ†ꜫ†ꜭ†ꜭ†ꜯ†ꜯ†ꜰ†ꜱ†ꜳ†ꜳ†ꜵ†ꜵ†ꜷ†ꜷ†ꜹ†ꜹ†ꜻ†ꜻ†ꜽ†ꜽ†ꜿ†ꜿ†ꝁ†ꝁ†ꝃ†ꝃ†ꝅ†ꝅ†ꝇ†ꝇ†ꝉ†ꝉ†ꝋ†" ++
    "ꝋ†ꝍ†ꝍ†ꝏ†ꝏ†ꝑ†ꝑ†ꝓ†ꝓ†ꝕ†ꝕ†ꝗ†ꝗ†ꝙ†ꝙ†ꝛ†ꝛ†ꝝ†ꝝ†ꝟ†ꝟ†ꝡ†ꝡ†ꝣ†ꝣ†ꝥ†ꝥ†ꝧ†ꝧ†ꝩ†ꝩ†ꝫ†ꝫ†ꝭ†ꝭ†ꝯ"),
  (0xa779, "ꝺ†ꝺ†ꝼ†ꝼ†ᵹ†ꝿ†ꝿ†ꞁ†ꞁ†ꞃ†ꞃ†ꞅ†ꞅ†ꞇ"),
  (0xa78b, "ꞌ†ꞌ†ɥ†ꞎ†ꞏ†ꞑ†ꞑ†ꞓ†ꞓ†ꞔ†ꞕ†ꞗ†ꞗ†ꞙ†ꞙ†ꞛ†ꞛ†ꞝ†ꞝ†ꞟ†ꞟ†ꞡ†ꞡ†ꞣ†ꞣ†ꞥ†ꞥ†ꞧ†ꞧ†ꞩ†ꞩ†ɦ†ɜ†ɡ†ɬ†ɪ†ꞯ†ʞ†ʇ†ʝ†ꭓ†" ++
    "ꞵ†ꞵ†ꞷ†ꞷ†ꞹ†ꞹ†ꞻ†ꞻ†ꞽ†ꞽ†ꞿ†ꞿ†ꟁ†ꟁ†ꟃ†ꟃ†ꞔ†ʂ†ᶎ†ꟈ†ꟈ†ꟊ"), (0xa7d0, "ꟑ"), (0xa7d6, "ꟗ†ꟗ†ꟙ"), (0xa7f5, "ꟶ"),
  (0xf900, "豈†更†車†賈†滑†串†句†龜†龜†契†金†喇†奈†懶†癩†羅†蘿†螺†裸†邏†樂†洛†烙†珞†落†酪†駱†亂†卵†欄†爛†蘭†鸞†嵐†濫†藍†襤†拉†臘†蠟†廊†" ++
    "朗†浪†狼†郎†來†冷†勞†擄†櫓†爐†盧†老†蘆†虜†路†露†魯†鷺†碌†祿†綠†菉†錄†鹿†論†壟†弄†籠†聾†牢†磊†賂†雷†壘†屢†樓†淚†漏†累†縷†陋†勒†肋†凜†凌†" ++
    "稜†綾†菱†陵†讀†拏†樂†諾†丹†寧†怒†率†異†北†磻†便†復†不†泌†數†索†參†塞†省†葉†說†殺†辰†沈†拾†若†掠†略†亮†兩†凉†梁†糧†良†諒†量†勵†呂†女†廬†" ++
    "旅†濾†礪†閭†驪†麗†黎†力†曆†歷†轢†年†憐†戀†撚†漣†煉†璉†秊†練†聯†輦†蓮†連†鍊†列†劣†咽†烈†裂†說†廉†念†捻†殮†簾†獵†令†囹†寧†嶺†怜†玲†瑩†羚†" ++
    "聆†鈴†零†靈†領†例†禮†醴†隸†惡†了†僚†寮†尿†料†樂†燎†療†蓼†遼†龍†暈†阮†劉†杻†柳†流†溜†琉†留†硫†紐†類†六†戮†陸†倫†崙†淪†輪†律†慄†栗†率†隆†" ++
    "利†吏†履†易†李†梨†泥†理†痢†罹†裏†裡†里†離†匿†溺†吝†燐†璘†藺†隣†鱗†麟†林†淋†臨†立†笠†粒†狀†炙†識†什†茶†刺†切†度†拓†糖†宅†洞†暴†輻†行†降†" ++
    "見†廓†兀†嗀†﨎†﨏†塚†﨑†晴†﨓†﨔†凞†猪†益†礼†神†祥†福†靖†精†羽†﨟†蘒†﨡†諸†﨣†﨤†逸†都†﨧†﨨†﨩†飯†飼†館†鶴†郞†隷†侮†僧†免†勉†勤†卑†喝†" ++
    "嘆†器†塀†墨†層†屮†悔†慨†憎†懲†敏†既†暑†梅†海†渚†漢†煮†爫†琢†碑†社†祉†祈†祐†祖†祝†禍†禎†穀†突†節†練†縉†繁†署†者†臭†艹†艹†著†褐†視†謁†謹†" ++
    "賓†贈†辶†逸†難†響†頻"), (0xfb00, "ff†fi†fl†ffi†ffl†st†st"), (0xfb13, "մն†մե†մի†վն†մխ"),
  (0xfb1d, "י\u05b4†\ufb1e†ײ\u05b7†ע†א†ד†ה†כ†ל†ם†ר†ת†+†ש\u05c1†ש\u05c2†ש\u05bc\u05c1†ש\u05bc" ++
    "\u05c2†א\u05b7†א\u05b8†א\u05bc†ב\u05bc†ג\u05bc†ד\u05bc†ה\u05bc†ו\u05bc†ז\u05bc†\ufb37†ט" ++
    "\u05bc†י\u05bc†ך\u05bc†כ\u05bc†ל\u05bc†\ufb3d†מ\u05bc†\ufb3f†נ\u05bc†ס\u05bc†\ufb42†ף" ++
    "\u05bc†פ\u05bc†\ufb45†צ\u05bc†ק\u05bc†ר\u05bc†ש\u05bc†ת\u05bc†ו\u05b9†ב\u05bf†כ\u05bf†פ" ++
    "\u05bf†אל†ٱ†ٱ†ٻ†ٻ†ٻ†ٻ†پ†پ†پ†پ†ڀ†ڀ†ڀ†ڀ†ٺ†ٺ†ٺ†ٺ†ٿ†ٿ†ٿ†ٿ†ٹ†ٹ†ٹ†ٹ†ڤ†ڤ†ڤ†ڤ†ڦ†ڦ†ڦ†ڦ†ڄ†ڄ†ڄ†ڄ†ڃ†ڃ†" ++
    "ڃ†ڃ†چ†چ†چ†چ†ڇ†ڇ†ڇ†ڇ†ڍ†ڍ†ڌ†ڌ†ڎ†ڎ†ڈ†ڈ†ژ†ژ†ڑ†ڑ†ک†ک†ک†ک†گ†گ†گ†گ†ڳ†ڳ†ڳ†ڳ†ڱ†ڱ†ڱ†ڱ†ں†ں†ڻ†ڻ†ڻ†ڻ†ە" ++
    "\u0654†ە\u0654†ہ†ہ†ہ†ہ†ھ†ھ†ھ†ھ†ے†ے†ے\u0654†ے\u0654"),
  (0xfbd3, "ڭ†ڭ†ڭ†ڭ†ۇ†ۇ†ۆ†ۆ†ۈ†ۈ†ۇٴ†ۋ†ۋ†ۅ†ۅ†ۉ†ۉ†ې†ې†ې†ې†ى†ى†ي\u0654ا†ي\u0654ا†ي\u0654ە†ي\u0654ە" ++
    "†ي\u0654و†ي\u0654و†ي\u0654ۇ†ي\u0654ۇ†ي\u0654ۆ†ي\u0654ۆ†ي\u0654ۈ†ي\u0654ۈ†ي\u0654ې†ي\u0654ې" ++
    "†ي\u0654ې†ي\u0654ى†ي\u0654ى†ي\u0654ى†ی†ی†ی†ی†ي\u0654ج†ي\u0654ح†ي\u0654م†ي\u0654ى†ي\u0654ي†" ++
    "بج†بح†بخ†بم†بى†بي†تج†تح†تخ†تم†تى†تي†ثج†ثم†ثى†ثي†جح†جم†حج†حم†خج†خح†خم†سج†سح†سخ†سم†صح†صم†ضج†" ++
    "ضح†ضخ†ضم†طح†طم†ظم†عج†عم†غج†غم†فج†فح†فخ†فم†فى†في†قح†قم†قى†قي†كا†كج†كح†كخ†كل†كم†كى†كي†لج†لح†" ++
    "لخ†لم†لى†لي†مج†مح†مخ†مم†مى†مي†نج†نح†نخ†نم†نى†ني†هج†هم†هى†هي†يج†يح†يخ†يم†يى†يي†ذ\u0670†ر" ++
    "\u0670†ى\u0670† \u064c\u0651† \u064d\u0651† \u064e\u0651† \u064f\u0651† \u0650\u0651† " ++
    "\u0651\u0670†ي\u0654ر†ي\u0654ز†ي\u0654م†ي\u0654ن†ي\u0654ى†ي\u0654ي†بر†بز†بم†بن†بى†بي†تر†تز" ++
    "†تم†تن†تى†تي†ثر†ثز†ثم†ثن†ثى†ثي†فى†في†قى†قي†كا†كل†كم†كى†كي†لم†لى†لي†ما†مم†نر†نز†نم†نن†نى†ني" ++
    "†ى\u0670†ير†يز†يم†ين†يى†يي†ي\u0654ج†ي\u0654ح†ي\u0654خ†ي\u0654م†ي\u0654ه†بج†بح†بخ†بم†به†تج†" ++
    "تح†تخ†تم†ته†ثم†جح†جم†حج†حم†خج†خم†سج†سح†سخ†سم†صح†صخ†صم†ضج†ضح†ضخ†ضم†طح†ظم†عج†عم†غج†غم†فج†فح†" ++
    "فخ†فم†قح†قم†كج†كح†كخ†كل†كم†لج†لح†لخ†لم†له†مج†مح†مخ†مم†نج†نح†نخ†نم†نه†هج†هم†ه\u0670†يج†يح†ي" ++
    "خ†يم†يه†ي\u0654م†ي\u0654ه†بم†به†تم†ته†ثم†ثه†سم†سه†شم†شه†كل†كم†لم†نم†نه†يم†يه†ـ\u064e\u0651" ++
    "†ـ\u064f\u0651†ـ\u0650\u0651†طى†طي†عى†عي†غى†غي†سى†سي†شى†شي†حى†حي†جى†جي†خى†خي†صى†صي†ضى†ضي†ش" ++
    "ج†شح†شخ†شم†شر†سر†صر†ضر†طى†طي†عى†عي†غى†غي†سى†سي†شى†شي†حى†حي†جى†جي†خى†خي†صى†صي†ضى†ضي†شج†شح†ش" ++
    "خ†شم†شر†سر†صر†ضر†شج†شح†شخ†شم†سه†شه†طم†سج†سح†سخ†شج†شح†شخ†طم†ظم†ا\u064b†ا\u064b"),
  (0xfd50, "تجم†تحج†تحج†تحم†تخم†تمج†تمح†تمخ†جمح†جمح†حمي†حمى†سحج†سجح†سجى†سمح†سمح†سمج†سمم†سمم†صح" ++
    "ح†صحح†صمم†شحم†شحم†شجي†شمخ†شمخ†شمم†شمم†ضحى†ضخم†ضخم†طمح†طمح†طمم†طمي†عجم†عمم†عمم†عمى†غمم†غمي†" ++
    "غمى†فخم†فخم†قمح†قمم†لحم†لحي†لحى†لجج†لجج†لخم†لخم†لمح†لمح†محج†محم†محي†مجح†مجم†مخج†مخم†\ufd90" ++
    "†\ufd91†مجخ†همج†همم†نحم†نحى†نجم†نجم†نجى†نمي†نمى†يمم†يمم†بخي†تجي†تجى†تخي†تخى†تمي†تمى†جمي†جح" ++
    "ى†جمى†سخى†صحي†شحي†ضحي†لجي†لمي†يحي†يجي†يمي†ممي†قمي†نحي†قمح†لحم†عمي†كمي†نجح†مخي†لجم†كمم†لجم†" ++
    "نجح†جحي†حجي†مجي†فمي†بحي†كمم†عجم†صمم†سخي†نجي"),
  (0xfdf0, "صلے†قلے†الله†اكبر†محمد†صلعم†رسول†عليه†وسلم†صلى†صلى الله عليه وسلم†جل جلاله†ریال"),
  (0xfe30, "..†—†–†_†_†(†)†\x7b†\x7d†〔†〕†【†】†《†》†〈†〉†「†」†『†』"),
  (0xfe49, " \u0305† \u0305† \u0305† \u0305†_†_†_†,†、†.†\ufe53†;†:†?†!†—†(†)†\x7b†\x7d†〔†〕†#†&" ++
    "†*†+†-†<†>†=†\ufe67†\\†$†%†@"),
  (0xfe70, " \u064b†ـ\u064b† \u064c†ﹳ† \u064d†\ufe75† \u064e†ـ\u064e† \u064f†ـ\u064f† \u0650†ـ" ++
    "\u0650† \u0651†ـ\u0651† \u0652†ـ\u0652†ء†ا\u0653†ا\u0653†ا\u0654†ا\u0654†و\u0654†و\u0654†ا" ++
    "\u0655†ا\u0655†ي\u0654†ي\u0654†ي\u0654†ي\u0654†ا†ا†ب†ب†ب†ب†ة†ة†ت†ت†ت†ت†ث†ث†ث†ث†ج†ج†ج†ج†ح†ح" ++
    "†ح†ح†خ†خ†خ†خ†د†د†ذ†ذ†ر†ر†ز†ز†س†س†س†س†ش†ش†ش†ش†ص†ص†ص†ص†ض†ض†ض†ض†ط†ط†ط†ط†ظ†ظ†ظ†ظ†ع†ع†ع†ع†غ†غ†غ" ++
    "†غ†ف†ف†ف†ف†ق†ق†ق†ق†ك†ك†ك†ك†ل†ل†ل†ل†م†م†م†م†ن†ن†ن†ن†ه†ه†ه†ه†و†و†ى†ى†ي†ي†ي†ي†لا\u0653†لا" ++
    "\u0653†لا\u0654†لا\u0654†لا\u0655†لا\u0655†لا†لا"),
  (0xff01, "!†\x22†#†$†%†&†\x27†(†)†*†+†,†-†.†/†0†1†2†3†4†5†6†7†8†9†:†;†<†=†>†?†@†a†b†c†d†e†f†" ++
    "g†h†i†j†k†l†m†n†o†p†q†r†s†t†u†v†w†x†y†z†[†\\†]†^†_†\x60†a†b†c†d†e†f†g†h†i†j†k†l†m†n†o†p†q†" ++
    "r†s†t†u†v†w†x†y†z†\x7b†|†\x7d†~†⦅†⦆†。†「†」†、†・†ヲ†ァ†ィ†ゥ†ェ†ォ†ャ†ュ†ョ†ッ†ー†ア†イ†ウ†エ†オ†カ†キ†ク†ケ†コ†サ†" ++
    "シ†ス†セ†ソ†タ†チ†ツ†テ†ト†ナ†ニ†ヌ†ネ†ノ†ハ†ヒ†フ†ヘ†ホ†マ†ミ†ム†メ†モ†ヤ†ユ†ヨ†ラ†リ†ル†レ†ロ†ワ†ン†\u3099†\u309a†ᅠ†ᄀ†ᄁ†ᆪ†" ++
    "ᄂ†ᆬ†ᆭ†ᄃ†ᄄ†ᄅ†ᆰ†ᆱ†ᆲ†ᆳ†ᆴ†ᆵ†ᄚ†ᄆ†ᄇ†ᄈ†ᄡ†ᄉ†ᄊ†ᄋ†ᄌ†ᄍ†ᄎ†ᄏ†ᄐ†ᄑ†ᄒ†\uffbf†\uffc0†\uffc1†ᅡ†ᅢ†ᅣ†ᅤ†ᅥ†ᅦ†" ++
    "\uffc8†\uffc9†ᅧ†ᅨ†ᅩ†ᅪ†ᅫ†ᅬ†\uffd0†\uffd1†ᅭ†ᅮ†ᅯ†ᅰ†ᅱ†ᅲ†\uffd8†\uffd9†ᅳ†ᅴ†ᅵ†\uffdd†\uffde†" ++
    "\uffdf†¢†£†¬† \u0304†¦†¥†₩†\uffe7†│†←†↑†→†↓†■†○"),
  (0x10400, "𐐨†𐐩†𐐪†𐐫†𐐬†𐐭†𐐮†𐐯†𐐰†𐐱†𐐲†𐐳†𐐴†𐐵†𐐶†𐐷†𐐸†𐐹†𐐺†𐐻†𐐼†𐐽†𐐾†𐐿†𐑀†𐑁†𐑂†𐑃†𐑄†𐑅†𐑆†𐑇†𐑈†𐑉†𐑊†𐑋†𐑌†𐑍†𐑎†𐑏"),
  (0x104b0, "𐓘†𐓙†𐓚†𐓛†𐓜†𐓝†𐓞†𐓟†𐓠†𐓡†𐓢†𐓣†𐓤†𐓥†𐓦†𐓧†𐓨†𐓩†𐓪†𐓫†𐓬†𐓭†𐓮†𐓯†𐓰†𐓱†𐓲†𐓳†𐓴†𐓵†𐓶†𐓷†𐓸†𐓹†𐓺†𐓻"),
  (0x10570, "𐖗†𐖘†𐖙†𐖚†𐖛†𐖜†𐖝†𐖞†𐖟†𐖠†𐖡†𐕻†𐖣†𐖤†𐖥†𐖦†𐖧†𐖨†𐖩†𐖪†𐖫†𐖬†𐖭†𐖮†𐖯†𐖰†𐖱†𐖋†𐖳†𐖴†𐖵†𐖶†𐖷†𐖸†𐖹†𐖓†𐖻†𐖼"),
  (0x10c80, "𐳀†𐳁†𐳂†𐳃†𐳄†𐳅†𐳆†𐳇†𐳈†𐳉†𐳊†𐳋†𐳌†𐳍†𐳎†𐳏†𐳐†𐳑†𐳒†𐳓†𐳔†𐳕†𐳖†𐳗†𐳘†𐳙†𐳚†𐳛†𐳜†𐳝†𐳞†𐳟†𐳠†𐳡†𐳢†𐳣†𐳤†𐳥†𐳦†𐳧†𐳨" ++
    "†𐳩†𐳪†𐳫†𐳬†𐳭†𐳮†𐳯†𐳰†𐳱†𐳲"),
  (0x118a0, "𑣀†𑣁†𑣂†𑣃†𑣄†𑣅†𑣆†𑣇†𑣈†𑣉†𑣊†𑣋†𑣌†𑣍†𑣎†𑣏†𑣐†𑣑†𑣒†𑣓†𑣔†𑣕†𑣖†𑣗†𑣘†𑣙†𑣚†𑣛†𑣜†𑣝†𑣞†𑣟"),
  (0x16e40, "𖹠†𖹡†𖹢†𖹣†𖹤†𖹥†𖹦†𖹧†𖹨†𖹩†𖹪†𖹫†𖹬†𖹭†𖹮†𖹯†𖹰†𖹱†𖹲†𖹳†𖹴†𖹵†𖹶†𖹷†𖹸†𖹹†𖹺†𖹻†𖹼†𖹽†𖹾†𖹿"),
  (0x1d15e, "𝅗𝅥†𝅘𝅥†𝅘𝅥𝅮†𝅘𝅥𝅯†𝅘𝅥𝅰†𝅘𝅥𝅱†𝅘𝅥𝅲"), (0x1d1bb, "𝆹𝅥†𝆺𝅥†𝆹𝅥𝅮†𝆺𝅥𝅮†𝆹𝅥𝅯†𝆺𝅥𝅯"),
  (0x1d400, "a†b†c†d†e†f†g†h†i†j†k†l†m†n†o†p†q†r†s†t†u†v†w†x†y†z†a†b†c†d†e†f†g†h†i†j†k†l†m†n†o" ++
    "†p†q†r†s†t†u†v†w†x†y†z†a†b†c†d†e†f†g†h†i†j†k†l†m†n†o†p†q†r†s†t†u†v†w†x†y†z†a†b†c†d†e†f†g†𝑕" ++
    "†i†j†k†l†m†n†o†p†q†r†s†t†u†v†w†x†y†z†a†b†c†d†e†f†g†h†i†j†k†l†m†n†o†p†q†r†s†t†u†v†w†x†y†z†a" ++
    "†b†c†d†e†f†g†h†i†j†k†l†m†n†o†p†q†r†s†t†u†v†w†x†y†z†a†𝒝†c†d†𝒠†𝒡†g†𝒣†𝒤†j†k†𝒧†𝒨†n†o†p†q†𝒭†s†t" ++
    "†u†v†w†x†y†z†a†b†c†d†𝒺†f†𝒼†h†i†j†k†𝓁†m†n†𝓄†p†q†r†s†t†u†v†w†x†y†z†a†b†c†d†e†f†g†h†i†j†k†l†m" ++
    "†n†o†p†q†r†s†t†u†v†w†x†y†z†a†b†c†d†e†f†g†h†i†j†k†l†m†n†o†p†q†r†s†t†u†v†w†x†y†z†a†b†𝔆†d†e†f" ++
    "†g†𝔋†𝔌†j†k†l†m†n†o†p†q†𝔕†s†t†u†v†w†x†y†𝔝†a†b†c†d†e†f†g†h†i†j†k†l†m†n†o†p†q†r†s†t†u†v†w†x†y" ++
    "†z†a†b†𝔺†d†e†f†g†𝔿†i†j†k†l†m†𝕅†o†𝕇†𝕈†𝕉†s†t†u†v†w†x†y†𝕑†a†b†c†d†e†f†g†h†i†j†k†l†m†n†o†p†q†r" ++
    "†s†t†u†v†w†x†y†z†a†b†c†d†e†f†g†h†i†j†k†l†m†n†o†p†q†r†s†t†u†v†w†x†y†z†a†b†c†d†e†f†g†h†i†j†k" ++
    "†l†m†n†o†p†q†r†s†t†u†v†w†x†y†z†a†b†c†d†e†f†g†h†i†j†k†l†m†n†o†p†q†r†s†t†u†v†w†x†y†z†a†b†c†d" ++
    "†e†f†g†h†i†j†k†l†m†n†o†p†q†r†s†t†u†v†w†x†y†z†a†b†c†d†e†f†g†h†i†j†k†l†m†n†o†p†q†r†s†t†u†v†w" ++
    "†x†y†z†a†b†c†d†e†f†g†h†i†j†k†l†m†n†o†p†q†r†s†t†u†v†w†x†y†z†a†b†c†d†e†f†g†h†i†j†k†l†m†n†o†p" ++
    "†q†r†s†t†u†v†w†x†y†z†a†b†c†d†e†f†g†h†i†j†k†l†m†n†o†p†q†r†s†t†u†v†w†x†y†z†a†b†c†d†e†f†g†h†i" ++
    "†j†k†l†m†n†o†p†q†r†s†t†u†v†w†x†y†z†a†b†c†d†e†f†g†h†i†j†k†l†m†n†o†p†q†r†s†t†u†v†w†x†y†z†a†b" ++
    "†c†d†e†f†g†h†i†j†k†l†m†n†o†p†q†r†s†t†u†v†w†x†y†z†a†b†c†d†e†f†g†h†i†j†k†l†m†n†o†p†q†r†s†t†u" ++
    "†v†w†x†y†z"),
  (0x1d6a8, "α†β†γ†δ†ε†ζ†η†θ†ι†κ†λ†μ†ν†ξ†ο†π†ρ†θ†σ†τ†υ†φ†χ†ψ†ω†∇†α†β†γ†δ†ε†ζ†η†θ†ι†κ†λ†μ†ν†ξ†ο" ++
    "†π†ρ†σ†σ†τ†υ†φ†χ†ψ†ω†∂†ε†θ†κ†φ†ρ†π†α†β†γ†δ†ε†ζ†η†θ†ι†κ†λ†μ†ν†ξ†ο†π†ρ†θ†σ†τ†υ†φ†χ†ψ†ω†∇†α†β" ++
    "†γ†δ†ε†ζ†η†θ†ι†κ†λ†μ†ν†ξ†ο†π†ρ†σ†σ†τ†υ†φ†χ†ψ†ω†∂†ε†θ†κ†φ†ρ†π†α†β†γ†δ†ε†ζ†η†θ†ι†κ†λ†μ†ν†ξ†ο" ++
    "†π†ρ†θ†σ†τ†υ†φ†χ†ψ†ω†∇†α†β†γ†δ†ε†ζ†η†θ†ι†κ†λ†μ†ν†ξ†ο†π†ρ†σ†σ†τ†υ†φ†χ†ψ†ω†∂†ε†θ†κ†φ†ρ†π†α†β" ++
    "†γ†δ†ε†ζ†η†θ†ι†κ†λ†μ†ν†ξ†ο†π†ρ†θ†σ†τ†υ†φ†χ†ψ†ω†∇†α†β†γ†δ†ε†ζ†η†θ†ι†κ†λ†μ†ν†ξ†ο†π†ρ†σ†σ†τ†υ" ++
    "†φ†χ†ψ†ω†∂†ε†θ†κ†φ†ρ†π†α†β†γ†δ†ε†ζ†η†θ†ι†κ†λ†μ†ν†ξ†ο†π†ρ†θ†σ†τ†υ†φ†χ†ψ†ω†∇†α†β†γ†δ†ε†ζ†η†θ" ++
    "†ι†κ†λ†μ†ν†ξ†ο†π†ρ†σ†σ†τ†υ†φ†χ†ψ†ω†∂†ε†θ†κ†φ†ρ†π"),
  (0x1d7ce, "0†1†2†3†4†5†6†7†8†9†0†1†2†3†4†5†6†7†8†9†0†1†2†3†4†5†6†7†8†9†0†1†2†3†4†5†6†7†8†9†0" ++
    "†1†2†3†4†5†6†7†8†9"),
  (0x1e900, "𞤢†𞤣†𞤤†𞤥†𞤦†𞤧†𞤨†𞤩†𞤪†𞤫†𞤬†𞤭†𞤮†𞤯†𞤰†𞤱†𞤲†𞤳†𞤴†𞤵†𞤶†𞤷†𞤸†𞤹†𞤺†𞤻†𞤼†𞤽†𞤾†𞤿†𞥀†𞥁†𞥂†𞥃"),
  (0x2f800, "丽†丸†乁†𠄢†你†侮†侻†倂†偺†備†僧†像†㒞†𠘺†免†兔†兤†具†𠔜†㒹†內†再†𠕋†冗†冤†仌†冬†况†𩇟†凵†刃†㓟†刻†剆†割†剷†㔕†勇†勉†勤†勺" ++
    "†包†匆†北†卉†卑†博†即†卽†卿†卿†卿†𠨬†灰†及†叟†𠭣†叫†叱†吆†咞†吸†呈†周†咢†哶†唐†啓†啣†善†善†喙†喫†喳†嗂†圖†嘆†圗†噑†噴†切†壮†城†埴†堍†型" ++
    "†堲†報†墬†𡓤†売†壷†夆†多†夢†奢†𡚨†𡛪†姬†娛†娧†姘†婦†㛮†𡍪†嬈†嬾†嬾†𡧈†寃†寘†寧†寳†𡬘†寿†将†弳†尢†㞁†屠†屮†峀†岍†𡷤†嵃†𡷦†嵮†嵫†嵼†巡†巢" ++
    "†㠯†巽†帨†帽†幩†㡢†𢆃†㡼†庰†庳†庶†廊†𪎒†廾†𢌱†𢌱†舁†弢†弢†㣇†𣊸†𦇚†形†彫†㣣†徚†忍†志†忹†悁†㤺†㤜†悔†𢛔†惇†慈†慌†慎†慌†慺†憎†憲†憤†憯†懞" ++
    "†懲†懶†成†戛†扝†抱†拔†捐†𢬌†挽†拼†捨†掃†揤†𢯱†搢†揅†掩†㨮†摩†摾†撝†摷†㩬†敏†敬†𣀊†旣†書†晉†㬙†暑†㬈†㫤†冒†冕†最†暜†肭†䏙†朗†望†朡†杞†杓" ++
    "†𣏃†㭉†柺†枅†桒†梅†𣑭†梎†栟†椔†㮝†楂†榣†槪†檨†𣚣†櫛†㰘†次†𣢧†歔†㱎†歲†殟†殺†殻†𣪍†𡴋†𣫺†汎†𣲼†沿†泍†汧†洖†派†海†流†浩†浸†涅†𣴞†洴†港†湮" ++
    "†㴳†滋†滇†𣻑†淹†潮†𣽞†𣾎†濆†瀹†瀞†瀛†㶖†灊†災†灷†炭†𠔥†煅†𤉣†熜†䎫†爨†爵†牐†𤘈†犀†犕†𤜵†𤠔†獺†王†㺬†玥†㺸†㺸†瑇†瑜†瑱†璅†瓊†㼛†甤†𤰶†甾" ++
    "†𤲒†異†𢆟†瘐†𤾡†𤾸†𥁄†㿼†䀈†直†𥃳†𥃲†𥄙†𥄳†眞†真†真†睊†䀹†瞋†䁆†䂖†𥐝†硎†碌†磌†䃣†𥘦†祖†𥚚†𥛅†福†秫†䄯†穀†穊†穏†𥥼†𥪧†𥪧†窮†䈂†𥮫†篆†築" ++
    "†䈧†𥲀†糒†䊠†糨†糣†紀†𥾆†絣†䌁†緇†縂†繅†䌴†𦈨†𦉇†䍙†𦋙†罺†𦌾†羕†翺†者†𦓚†𦔣†聠†𦖨†聰†𣍟†䏕†育†脃†䐋†脾†媵†𦞧†𦞵†𣎓†𣎜†舁†舄†辞†䑫†芑†芋" ++
    "†芝†劳†花†芳†芽†苦†𦬼†若†茝†荣†莭†茣†莽†菧†著†荓†菊†菌†菜†𦰶†𦵫†𦳕†䔫†蓱†蓳†蔖†𧏊†蕤†𦼬†䕝†䕡†𦾱†𧃒†䕫†虐†虜†虧†虩†蚩†蚈†蜎†蛢†蝹†蜨†蝫" ++
    "†螆†䵗†蟡†蠁†䗹†衠†衣†𧙧†裗†裞†䘵†裺†㒻†𧢮†𧥦†䚾†䛇†誠†諭†變†豕†𧲨†貫†賁†贛†起†𧼯†𠠄†跋†趼†跰†𠣞†軔†輸†𨗒†𨗭†邔†郱†鄑†𨜮†鄛†鈸†鋗†鋘†鉼" ++
    "†鏹†鐕†𨯺†開†䦕†閷†𨵷†䧦†雃†嶲†霣†𩅅†𩈚†䩮†䩶†韠†𩐊†䪲†𩒖†頋†頋†頩†𩖶†飢†䬳†餩†馧†駂†駾†䯎†𩬰†鬒†鱀†鳽†䳎†䳭†鵧†𪃎†䳸†𪄅†𪈎†𪊑†麻†䵖†黹" ++
    "†黾†鼅†鼏†鼖†鼻†𪘀")]

/-- Characters with marks that are joined: a character, a mark, and what they become, again and
again. -/
def joinedMarks : List String := [
  "<\u0338≮=\u0338≠>\u0338≯a\u0300àa\u0301áa\u0302âa\u0303ãa\u0304āa\u0306ăa\u0307ȧa\u0308ä",
  "a\u0309ảa\u030aåa\u030cǎa\u030fȁa\u0311ȃa\u0323ạa\u0325ḁa\u0328ąb\u0307ḃb\u0323ḅb\u0331ḇ",
  "c\u0301ćc\u0302ĉc\u0307ċc\u030cčc\u0327çd\u0307ḋd\u030cďd\u0323ḍd\u0327ḑd\u032dḓd\u0331ḏ",
  "e\u0300èe\u0301ée\u0302êe\u0303ẽe\u0304ēe\u0306ĕe\u0307ėe\u0308ëe\u0309ẻe\u030cěe\u030fȅ",
  "e\u0311ȇe\u0323ẹe\u0327ȩe\u0328ęe\u032dḙe\u0330ḛf\u0307ḟg\u0301ǵg\u0302ĝg\u0304ḡg\u0306ğ",
  "g\u0307ġg\u030cǧg\u0327ģh\u0302ĥh\u0307ḣh\u0308ḧh\u030cȟh\u0323ḥh\u0327ḩh\u032eḫh\u0331ẖ",
  "i\u0300ìi\u0301íi\u0302îi\u0303ĩi\u0304īi\u0306ĭi\u0308ïi\u0309ỉi\u030cǐi\u030fȉi\u0311ȋ",
  "i\u0323ịi\u0328įi\u0330ḭj\u0302ĵj\u030cǰk\u0301ḱk\u030cǩk\u0323ḳk\u0327ķk\u0331ḵl\u0301ĺ",
  "l\u030cľl\u0323ḷl\u0327ļl\u032dḽl\u0331ḻm\u0301ḿm\u0307ṁm\u0323ṃn\u0300ǹn\u0301ńn\u0303ñ",
  "n\u0307ṅn\u030cňn\u0323ṇn\u0327ņn\u032dṋn\u0331ṉo\u0300òo\u0301óo\u0302ôo\u0303õo\u0304ō",
  "o\u0306ŏo\u0307ȯo\u0308öo\u0309ỏo\u030bőo\u030cǒo\u030fȍo\u0311ȏo\u031bơo\u0323ọo\u0328ǫ",
  "p\u0301ṕp\u0307ṗr\u0301ŕr\u0307ṙr\u030cřr\u030fȑr\u0311ȓr\u0323ṛr\u0327ŗr\u0331ṟs\u0301ś",
  "s\u0302ŝs\u0307ṡs\u030cšs\u0323ṣs\u0326șs\u0327şt\u0307ṫt\u0308ẗt\u030cťt\u0323ṭt\u0326ț",
  "t\u0327ţt\u032dṱt\u0331ṯu\u0300ùu\u0301úu\u0302ûu\u0303ũu\u0304ūu\u0306ŭu\u0308üu\u0309ủ",
  "u\u030aůu\u030bűu\u030cǔu\u030fȕu\u0311ȗu\u031bưu\u0323ụu\u0324ṳu\u0328ųu\u032dṷu\u0330ṵ",
  "v\u0303ṽv\u0323ṿw\u0300ẁw\u0301ẃw\u0302ŵw\u0307ẇw\u0308ẅw\u030aẘw\u0323ẉx\u0307ẋx\u0308ẍ",
  "y\u0300ỳy\u0301ýy\u0302ŷy\u0303ỹy\u0304ȳy\u0307ẏy\u0308ÿy\u0309ỷy\u030aẙy\u0323ỵz\u0301ź",
  "z\u0302ẑz\u0307żz\u030cžz\u0323ẓz\u0331ẕ¨\u0300῭¨\u0301΅¨\u0342῁â\u0300ầâ\u0301ấâ\u0303ẫ",
  "â\u0309ẩä\u0304ǟå\u0301ǻæ\u0301ǽæ\u0304ǣç\u0301ḉê\u0300ềê\u0301ếê\u0303ễê\u0309ểï\u0301ḯ",
  "ô\u0300ồô\u0301ốô\u0303ỗô\u0309ổõ\u0301ṍõ\u0304ȭõ\u0308ṏö\u0304ȫø\u0301ǿü\u0300ǜü\u0301ǘ",
  "ü\u0304ǖü\u030cǚă\u0300ằă\u0301ắă\u0303ẵă\u0309ẳē\u0300ḕē\u0301ḗō\u0300ṑō\u0301ṓś\u0307ṥ",
  "š\u0307ṧũ\u0301ṹū\u0308ṻơ\u0300ờơ\u0301ớơ\u0303ỡơ\u0309ởơ\u0323ợư\u0300ừư\u0301ứư\u0303ữ",
  "ư\u0309ửư\u0323ựǫ\u0304ǭȧ\u0304ǡȩ\u0306ḝȯ\u0304ȱʒ\u030cǯά\u0345ᾴή\u0345ῄα\u0300ὰα\u0301ά",
  "α\u0304ᾱα\u0306ᾰα\u0313ἀα\u0314ἁα\u0342ᾶα\u0345ᾳε\u0300ὲε\u0301έε\u0313ἐε\u0314ἑη\u0300ὴ",
  "η\u0301ήη\u0313ἠη\u0314ἡη\u0342ῆη\u0345ῃι\u0300ὶι\u0301ίι\u0304ῑι\u0306ῐι\u0308ϊι\u0313ἰ",
  "ι\u0314ἱι\u0342ῖο\u0300ὸο\u0301όο\u0313ὀο\u0314ὁρ\u0313ῤρ\u0314ῥυ\u0300ὺυ\u0301ύυ\u0304ῡ",
  "υ\u0306ῠυ\u0308ϋυ\u0313ὐυ\u0314ὑυ\u0342ῦω\u0300ὼω\u0301ώω\u0313ὠω\u0314ὡω\u0342ῶω\u0345ῳ",
  "ϊ\u0300ῒϊ\u0301ΐϊ\u0342ῗϋ\u0300ῢϋ\u0301ΰϋ\u0342ῧώ\u0345ῴа\u0306ӑа\u0308ӓг\u0301ѓе\u0300ѐ",
  "е\u0306ӗе\u0308ёж\u0306ӂж\u0308ӝз\u0308ӟи\u0300ѝи\u0304ӣи\u0306йи\u0308ӥк\u0301ќо\u0308ӧ",
  "у\u0304ӯу\u0306ўу\u0308ӱу\u030bӳч\u0308ӵы\u0308ӹэ\u0308ӭі\u0308їѵ\u030fѷә\u0308ӛө\u0308ӫ",
  "ا\u0653آا\u0654أا\u0655إو\u0654ؤي\u0654ئہ\u0654ۂے\u0654ۓە\u0654ۀन\u093cऩर\u093cऱळ\u093cऴ",
  "\u09c7\u09be\u09cb\u09c7\u09d7\u09cc\u0b47\u0b3e\u0b4b\u0b47\u0b56\u0b48\u0b47\u0b57\u0b4c",
  "ஒ\u0bd7ஔ\u0bc6\u0bbe\u0bca\u0bc6\u0bd7\u0bcc\u0bc7\u0bbe\u0bcb\u0c46\u0c56\u0c48",
  "\u0cbf\u0cd5\u0cc0\u0cc6\u0cc2\u0cca\u0cc6\u0cd5\u0cc7\u0cc6\u0cd6\u0cc8\u0cca\u0cd5\u0ccb",
  "\u0d46\u0d3e\u0d4a\u0d46\u0d57\u0d4c\u0d47\u0d3e\u0d4b\u0dd9\u0dca\u0dda\u0dd9\u0dcf\u0ddc",
  "\u0dd9\u0ddf\u0dde\u0ddc\u0dca\u0dddဥ\u102eဦᬅ\u1b35ᬆᬇ\u1b35ᬈᬉ\u1b35ᬊᬋ\u1b35ᬌᬍ\u1b35ᬎᬑ\u1b35ᬒ",
  "\u1b3a\u1b35\u1b3b\u1b3c\u1b35\u1b3d\u1b3e\u1b35\u1b40\u1b3f\u1b35\u1b41\u1b42\u1b35\u1b43",
  "ḷ\u0304ḹṛ\u0304ṝṣ\u0307ṩạ\u0302ậạ\u0306ặẹ\u0302ệọ\u0302ộἀ\u0300ἂἀ\u0301ἄἀ\u0342ἆἀ\u0345ᾀ",
  "ἁ\u0300ἃἁ\u0301ἅἁ\u0342ἇἁ\u0345ᾁἂ\u0345ᾂἃ\u0345ᾃἄ\u0345ᾄἅ\u0345ᾅἆ\u0345ᾆἇ\u0345ᾇἐ\u0300ἒ",
  "ἐ\u0301ἔἑ\u0300ἓἑ\u0301ἕἠ\u0300ἢἠ\u0301ἤἠ\u0342ἦἠ\u0345ᾐἡ\u0300ἣἡ\u0301ἥἡ\u0342ἧἡ\u0345ᾑ",
  "ἢ\u0345ᾒἣ\u0345ᾓἤ\u0345ᾔἥ\u0345ᾕἦ\u0345ᾖἧ\u0345ᾗἰ\u0300ἲἰ\u0301ἴἰ\u0342ἶἱ\u0300ἳἱ\u0301ἵ",
  "ἱ\u0342ἷὀ\u0300ὂὀ\u0301ὄὁ\u0300ὃὁ\u0301ὅὐ\u0300ὒὐ\u0301ὔὐ\u0342ὖὑ\u0300ὓὑ\u0301ὕὑ\u0342ὗ",
  "ὠ\u0300ὢὠ\u0301ὤὠ\u0342ὦὠ\u0345ᾠὡ\u0300ὣὡ\u0301ὥὡ\u0342ὧὡ\u0345ᾡὢ\u0345ᾢὣ\u0345ᾣὤ\u0345ᾤ",
  "ὥ\u0345ᾥὦ\u0345ᾦὧ\u0345ᾧὰ\u0345ᾲὴ\u0345ῂὼ\u0345ῲᾶ\u0345ᾷ᾿\u0300῍᾿\u0301῎᾿\u0342῏ῆ\u0345ῇ",
  "ῶ\u0345ῷ῾\u0300῝῾\u0301῞῾\u0342῟←\u0338↚→\u0338↛↔\u0338↮⇐\u0338⇍⇒\u0338⇏⇔\u0338⇎∃\u0338∄",
  "∈\u0338∉∋\u0338∌∣\u0338∤∥\u0338∦∼\u0338≁≃\u0338≄≅\u0338≇≈\u0338≉≍\u0338≭≡\u0338≢≤\u0338≰",
  "≥\u0338≱≲\u0338≴≳\u0338≵≶\u0338≸≷\u0338≹≺\u0338⊀≻\u0338⊁≼\u0338⋠≽\u0338⋡⊂\u0338⊄⊃\u0338⊅",
  "⊆\u0338⊈⊇\u0338⊉⊑\u0338⋢⊒\u0338⋣⊢\u0338⊬⊨\u0338⊭⊩\u0338⊮⊫\u0338⊯⊲\u0338⋪⊳\u0338⋫⊴\u0338⋬",
  "⊵\u0338⋭う\u3099ゔか\u3099がき\u3099ぎく\u3099ぐけ\u3099げこ\u3099ごさ\u3099ざし\u3099じす\u3099ずせ\u3099ぜ",
  "そ\u3099ぞた\u3099だち\u3099ぢつ\u3099づて\u3099でと\u3099どは\u3099ばは\u309aぱひ\u3099びひ\u309aぴふ\u3099ぶ",
  "ふ\u309aぷへ\u3099べへ\u309aぺほ\u3099ぼほ\u309aぽゝ\u3099ゞウ\u3099ヴカ\u3099ガキ\u3099ギク\u3099グケ\u3099ゲ",
  "コ\u3099ゴサ\u3099ザシ\u3099ジス\u3099ズセ\u3099ゼソ\u3099ゾタ\u3099ダチ\u3099ヂツ\u3099ヅテ\u3099デト\u3099ド",
  "ハ\u3099バハ\u309aパヒ\u3099ビヒ\u309aピフ\u3099ブフ\u309aプヘ\u3099ベヘ\u309aペホ\u3099ボホ\u309aポワ\u3099ヷ",
  "ヰ\u3099ヸヱ\u3099ヹヲ\u3099ヺヽ\u3099ヾ𑂚𑂚𑂜𑂜𑂫𑂫𑄮𑄮𑄯𑄯𑍋𑍋𑍌𑍌𑒼𑒼𑒻𑒻𑒾𑒾𑖺𑖺𑖻𑖻𑤸𑤸"]

/-- The classes of marks, which say in what order they stand behind a character: the first and the
last mark of a run, and their class. -/
def markClasses : List (Nat × Nat × Nat) := [
  (0x300, 0x314, 230), (0x315, 0x315, 232), (0x316, 0x319, 220), (0x31a, 0x31a, 232),
  (0x31b, 0x31b, 216), (0x31c, 0x320, 220), (0x321, 0x322, 202), (0x323, 0x326, 220),
  (0x327, 0x328, 202), (0x329, 0x333, 220), (0x334, 0x338, 1), (0x339, 0x33c, 220),
  (0x33d, 0x344, 230), (0x345, 0x345, 240), (0x346, 0x346, 230), (0x347, 0x349, 220),
  (0x34a, 0x34c, 230), (0x34d, 0x34e, 220), (0x350, 0x352, 230), (0x353, 0x356, 220),
  (0x357, 0x357, 230), (0x358, 0x358, 232), (0x359, 0x35a, 220), (0x35b, 0x35b, 230),
  (0x35c, 0x35c, 233), (0x35d, 0x35e, 234), (0x35f, 0x35f, 233), (0x360, 0x361, 234),
  (0x362, 0x362, 233), (0x363, 0x36f, 230), (0x483, 0x487, 230), (0x591, 0x591, 220),
  (0x592, 0x595, 230), (0x596, 0x596, 220), (0x597, 0x599, 230), (0x59a, 0x59a, 222),
  (0x59b, 0x59b, 220), (0x59c, 0x5a1, 230), (0x5a2, 0x5a7, 220), (0x5a8, 0x5a9, 230),
  (0x5aa, 0x5aa, 220), (0x5ab, 0x5ac, 230), (0x5ad, 0x5ad, 222), (0x5ae, 0x5ae, 228),
  (0x5af, 0x5af, 230), (0x5b0, 0x5b0, 10), (0x5b1, 0x5b1, 11), (0x5b2, 0x5b2, 12),
  (0x5b3, 0x5b3, 13), (0x5b4, 0x5b4, 14), (0x5b5, 0x5b5, 15), (0x5b6, 0x5b6, 16),
  (0x5b7, 0x5b7, 17), (0x5b8, 0x5b8, 18), (0x5b9, 0x5ba, 19), (0x5bb, 0x5bb, 20),
  (0x5bc, 0x5bc, 21), (0x5bd, 0x5bd, 22), (0x5bf, 0x5bf, 23), (0x5c1, 0x5c1, 24),
  (0x5c2, 0x5c2, 25), (0x5c4, 0x5c4, 230), (0x5c5, 0x5c5, 220), (0x5c7, 0x5c7, 18),
  (0x610, 0x617, 230), (0x618, 0x618, 30), (0x619, 0x619, 31), (0x61a, 0x61a, 32),
  (0x64b, 0x64b, 27), (0x64c, 0x64c, 28), (0x64d, 0x64d, 29), (0x64e, 0x64e, 30),
  (0x64f, 0x64f, 31), (0x650, 0x650, 32), (0x651, 0x651, 33), (0x652, 0x652, 34),
  (0x653, 0x654, 230), (0x655, 0x656, 220), (0x657, 0x65b, 230), (0x65c, 0x65c, 220),
  (0x65d, 0x65e, 230), (0x65f, 0x65f, 220), (0x670, 0x670, 35), (0x6d6, 0x6dc, 230),
  (0x6df, 0x6e2, 230), (0x6e3, 0x6e3, 220), (0x6e4, 0x6e4, 230), (0x6e7, 0x6e8, 230),
  (0x6ea, 0x6ea, 220), (0x6eb, 0x6ec, 230), (0x6ed, 0x6ed, 220), (0x711, 0x711, 36),
  (0x730, 0x730, 230), (0x731, 0x731, 220), (0x732, 0x733, 230), (0x734, 0x734, 220),
  (0x735, 0x736, 230), (0x737, 0x739, 220), (0x73a, 0x73a, 230), (0x73b, 0x73c, 220),
  (0x73d, 0x73d, 230), (0x73e, 0x73e, 220), (0x73f, 0x741, 230), (0x742, 0x742, 220),
  (0x743, 0x743, 230), (0x744, 0x744, 220), (0x745, 0x745, 230), (0x746, 0x746, 220),
  (0x747, 0x747, 230), (0x748, 0x748, 220), (0x749, 0x74a, 230), (0x7eb, 0x7f1, 230),
  (0x7f2, 0x7f2, 220), (0x7f3, 0x7f3, 230), (0x7fd, 0x7fd, 220), (0x816, 0x819, 230),
  (0x81b, 0x823, 230), (0x825, 0x827, 230), (0x829, 0x82d, 230), (0x859, 0x85b, 220),
  (0x898, 0x898, 230), (0x899, 0x89b, 220), (0x89c, 0x89f, 230), (0x8ca, 0x8ce, 230),
  (0x8cf, 0x8d3, 220), (0x8d4, 0x8e1, 230), (0x8e3, 0x8e3, 220), (0x8e4, 0x8e5, 230),
  (0x8e6, 0x8e6, 220), (0x8e7, 0x8e8, 230), (0x8e9, 0x8e9, 220), (0x8ea, 0x8ec, 230),
  (0x8ed, 0x8ef, 220), (0x8f0, 0x8f0, 27), (0x8f1, 0x8f1, 28), (0x8f2, 0x8f2, 29),
  (0x8f3, 0x8f5, 230), (0x8f6, 0x8f6, 220), (0x8f7, 0x8f8, 230), (0x8f9, 0x8fa, 220),
  (0x8fb, 0x8ff, 230), (0x93c, 0x93c, 7), (0x94d, 0x94d, 9), (0x951, 0x951, 230),
  (0x952, 0x952, 220), (0x953, 0x954, 230), (0x9bc, 0x9bc, 7), (0x9cd, 0x9cd, 9),
  (0x9fe, 0x9fe, 230), (0xa3c, 0xa3c, 7), (0xa4d, 0xa4d, 9), (0xabc, 0xabc, 7), (0xacd, 0xacd, 9),
  (0xb3c, 0xb3c, 7), (0xb4d, 0xb4d, 9), (0xbcd, 0xbcd, 9), (0xc3c, 0xc3c, 7), (0xc4d, 0xc4d, 9),
  (0xc55, 0xc55, 84), (0xc56, 0xc56, 91), (0xcbc, 0xcbc, 7), (0xccd, 0xccd, 9), (0xd3b, 0xd3c, 9),
  (0xd4d, 0xd4d, 9), (0xdca, 0xdca, 9), (0xe38, 0xe39, 103), (0xe3a, 0xe3a, 9), (0xe48, 0xe4b, 107),
  (0xeb8, 0xeb9, 118), (0xeba, 0xeba, 9), (0xec8, 0xecb, 122), (0xf18, 0xf19, 220),
  (0xf35, 0xf35, 220), (0xf37, 0xf37, 220), (0xf39, 0xf39, 216), (0xf71, 0xf71, 129),
  (0xf72, 0xf72, 130), (0xf74, 0xf74, 132), (0xf7a, 0xf7d, 130), (0xf80, 0xf80, 130),
  (0xf82, 0xf83, 230), (0xf84, 0xf84, 9), (0xf86, 0xf87, 230), (0xfc6, 0xfc6, 220),
  (0x1037, 0x1037, 7), (0x1039, 0x103a, 9), (0x108d, 0x108d, 220), (0x135d, 0x135f, 230),
  (0x1714, 0x1715, 9), (0x1734, 0x1734, 9), (0x17d2, 0x17d2, 9), (0x17dd, 0x17dd, 230),
  (0x18a9, 0x18a9, 228), (0x1939, 0x1939, 222), (0x193a, 0x193a, 230), (0x193b, 0x193b, 220),
  (0x1a17, 0x1a17, 230), (0x1a18, 0x1a18, 220), (0x1a60, 0x1a60, 9), (0x1a75, 0x1a7c, 230),
  (0x1a7f, 0x1a7f, 220), (0x1ab0, 0x1ab4, 230), (0x1ab5, 0x1aba, 220), (0x1abb, 0x1abc, 230),
  (0x1abd, 0x1abd, 220), (0x1abf, 0x1ac0, 220), (0x1ac1, 0x1ac2, 230), (0x1ac3, 0x1ac4, 220),
  (0x1ac5, 0x1ac9, 230), (0x1aca, 0x1aca, 220), (0x1acb, 0x1ace, 230), (0x1b34, 0x1b34, 7),
  (0x1b44, 0x1b44, 9), (0x1b6b, 0x1b6b, 230), (0x1b6c, 0x1b6c, 220), (0x1b6d, 0x1b73, 230),
  (0x1baa, 0x1bab, 9), (0x1be6, 0x1be6, 7), (0x1bf2, 0x1bf3, 9), (0x1c37, 0x1c37, 7),
  (0x1cd0, 0x1cd2, 230), (0x1cd4, 0x1cd4, 1), (0x1cd5, 0x1cd9, 220), (0x1cda, 0x1cdb, 230),
  (0x1cdc, 0x1cdf, 220), (0x1ce0, 0x1ce0, 230), (0x1ce2, 0x1ce8, 1), (0x1ced, 0x1ced, 220),
  (0x1cf4, 0x1cf4, 230), (0x1cf8, 0x1cf9, 230), (0x1dc0, 0x1dc1, 230), (0x1dc2, 0x1dc2, 220),
  (0x1dc3, 0x1dc9, 230), (0x1dca, 0x1dca, 220), (0x1dcb, 0x1dcc, 230), (0x1dcd, 0x1dcd, 234),
  (0x1dce, 0x1dce, 214), (0x1dcf, 0x1dcf, 220), (0x1dd0, 0x1dd0, 202), (0x1dd1, 0x1df5, 230),
  (0x1df6, 0x1df6, 232), (0x1df7, 0x1df8, 228), (0x1df9, 0x1df9, 220), (0x1dfa, 0x1dfa, 218),
  (0x1dfb, 0x1dfb, 230), (0x1dfc, 0x1dfc, 233), (0x1dfd, 0x1dfd, 220), (0x1dfe, 0x1dfe, 230),
  (0x1dff, 0x1dff, 220), (0x20d0, 0x20d1, 230), (0x20d2, 0x20d3, 1), (0x20d4, 0x20d7, 230),
  (0x20d8, 0x20da, 1), (0x20db, 0x20dc, 230), (0x20e1, 0x20e1, 230), (0x20e5, 0x20e6, 1),
  (0x20e7, 0x20e7, 230), (0x20e8, 0x20e8, 220), (0x20e9, 0x20e9, 230), (0x20ea, 0x20eb, 1),
  (0x20ec, 0x20ef, 220), (0x20f0, 0x20f0, 230), (0x2cef, 0x2cf1, 230), (0x2d7f, 0x2d7f, 9),
  (0x2de0, 0x2dff, 230), (0x302a, 0x302a, 218), (0x302b, 0x302b, 228), (0x302c, 0x302c, 232),
  (0x302d, 0x302d, 222), (0x302e, 0x302f, 224), (0x3099, 0x309a, 8), (0xa66f, 0xa66f, 230),
  (0xa674, 0xa67d, 230), (0xa69e, 0xa69f, 230), (0xa6f0, 0xa6f1, 230), (0xa806, 0xa806, 9),
  (0xa82c, 0xa82c, 9), (0xa8c4, 0xa8c4, 9), (0xa8e0, 0xa8f1, 230), (0xa92b, 0xa92d, 220),
  (0xa953, 0xa953, 9), (0xa9b3, 0xa9b3, 7), (0xa9c0, 0xa9c0, 9), (0xaab0, 0xaab0, 230),
  (0xaab2, 0xaab3, 230), (0xaab4, 0xaab4, 220), (0xaab7, 0xaab8, 230), (0xaabe, 0xaabf, 230),
  (0xaac1, 0xaac1, 230), (0xaaf6, 0xaaf6, 9), (0xabed, 0xabed, 9), (0xfb1e, 0xfb1e, 26),
  (0xfe20, 0xfe26, 230), (0xfe27, 0xfe2d, 220), (0xfe2e, 0xfe2f, 230), (0x101fd, 0x101fd, 220),
  (0x102e0, 0x102e0, 220), (0x10376, 0x1037a, 230), (0x10a0d, 0x10a0d, 220),
  (0x10a0f, 0x10a0f, 230), (0x10a38, 0x10a38, 230), (0x10a39, 0x10a39, 1), (0x10a3a, 0x10a3a, 220),
  (0x10a3f, 0x10a3f, 9), (0x10ae5, 0x10ae5, 230), (0x10ae6, 0x10ae6, 220), (0x10d24, 0x10d27, 230),
  (0x10eab, 0x10eac, 230), (0x10f46, 0x10f47, 220), (0x10f48, 0x10f4a, 230),
  (0x10f4b, 0x10f4b, 220), (0x10f4c, 0x10f4c, 230), (0x10f4d, 0x10f50, 220),
  (0x10f82, 0x10f82, 230), (0x10f83, 0x10f83, 220), (0x10f84, 0x10f84, 230),
  (0x10f85, 0x10f85, 220), (0x11046, 0x11046, 9), (0x11070, 0x11070, 9), (0x1107f, 0x1107f, 9),
  (0x110b9, 0x110b9, 9), (0x110ba, 0x110ba, 7), (0x11100, 0x11102, 230), (0x11133, 0x11134, 9),
  (0x11173, 0x11173, 7), (0x111c0, 0x111c0, 9), (0x111ca, 0x111ca, 7), (0x11235, 0x11235, 9),
  (0x11236, 0x11236, 7), (0x112e9, 0x112e9, 7), (0x112ea, 0x112ea, 9), (0x1133b, 0x1133c, 7),
  (0x1134d, 0x1134d, 9), (0x11366, 0x1136c, 230), (0x11370, 0x11374, 230), (0x11442, 0x11442, 9),
  (0x11446, 0x11446, 7), (0x1145e, 0x1145e, 230), (0x114c2, 0x114c2, 9), (0x114c3, 0x114c3, 7),
  (0x115bf, 0x115bf, 9), (0x115c0, 0x115c0, 7), (0x1163f, 0x1163f, 9), (0x116b6, 0x116b6, 9),
  (0x116b7, 0x116b7, 7), (0x1172b, 0x1172b, 9), (0x11839, 0x11839, 9), (0x1183a, 0x1183a, 7),
  (0x1193d, 0x1193e, 9), (0x11943, 0x11943, 7), (0x119e0, 0x119e0, 9), (0x11a34, 0x11a34, 9),
  (0x11a47, 0x11a47, 9), (0x11a99, 0x11a99, 9), (0x11c3f, 0x11c3f, 9), (0x11d42, 0x11d42, 7),
  (0x11d44, 0x11d45, 9), (0x11d97, 0x11d97, 9), (0x16af0, 0x16af4, 1), (0x16b30, 0x16b36, 230),
  (0x16ff0, 0x16ff1, 6), (0x1bc9e, 0x1bc9e, 1), (0x1d165, 0x1d166, 216), (0x1d167, 0x1d169, 1),
  (0x1d16d, 0x1d16d, 226), (0x1d16e, 0x1d172, 216), (0x1d17b, 0x1d182, 220),
  (0x1d185, 0x1d189, 230), (0x1d18a, 0x1d18b, 220), (0x1d1aa, 0x1d1ad, 230),
  (0x1d242, 0x1d244, 230), (0x1e000, 0x1e006, 230), (0x1e008, 0x1e018, 230),
  (0x1e01b, 0x1e021, 230), (0x1e023, 0x1e024, 230), (0x1e026, 0x1e02a, 230),
  (0x1e130, 0x1e136, 230), (0x1e2ae, 0x1e2ae, 230), (0x1e2ec, 0x1e2ef, 230),
  (0x1e8d0, 0x1e8d6, 220), (0x1e944, 0x1e949, 230), (0x1e94a, 0x1e94a, 7)]

/-- Characters that become nothing. -/
def vanishing : List (Nat × Nat) := [
  (0xad, 0xad), (0x34f, 0x34f), (0x1806, 0x1806), (0x180b, 0x180d), (0x200b, 0x200d),
  (0x2060, 0x2060), (0xfe00, 0xfe0f), (0xfeff, 0xfeff)]

/-- Characters that must not be in names. -/
def refusedInNames : List (Nat × Nat) := [
  (0x80, 0xa0), (0x340, 0x341), (0x6dd, 0x6dd), (0x70f, 0x70f), (0x1680, 0x1680), (0x180e, 0x180e),
  (0x2000, 0x200f), (0x2028, 0x202f), (0x205f, 0x2063), (0x206a, 0x206f), (0x2ff0, 0x2ffb),
  (0x3000, 0x3000), (0xd800, 0xf8ff), (0xfdd0, 0xfdef), (0xfeff, 0xfeff), (0xfff9, 0xffff),
  (0x1d173, 0x1d17a), (0x1fffe, 0x1ffff), (0x2fffe, 0x2ffff), (0x3fffe, 0x3ffff),
  (0x4fffe, 0x4ffff), (0x5fffe, 0x5ffff), (0x6fffe, 0x6ffff), (0x7fffe, 0x7ffff),
  (0x8fffe, 0x8ffff), (0x9fffe, 0x9ffff), (0xafffe, 0xaffff), (0xbfffe, 0xbffff),
  (0xcfffe, 0xcffff), (0xdfffe, 0xdffff), (0xe0001, 0xe0001), (0xe0020, 0xe007f),
  (0xefffe, 0x10ffff)]

/-- Characters of scripts that are written from right to left. -/
def leftward : List (Nat × Nat) := [
  (0x5be, 0x5be), (0x5c0, 0x5c0), (0x5c3, 0x5c3), (0x5d0, 0x5ea), (0x5f0, 0x5f4), (0x61b, 0x61b),
  (0x61f, 0x61f), (0x621, 0x63a), (0x640, 0x64a), (0x66d, 0x66f), (0x671, 0x6d5), (0x6dd, 0x6dd),
  (0x6e5, 0x6e6), (0x6fa, 0x6fe), (0x700, 0x70d), (0x710, 0x710), (0x712, 0x72c), (0x780, 0x7a5),
  (0x7b1, 0x7b1), (0x200f, 0x200f), (0xfb1d, 0xfb1d), (0xfb1f, 0xfb28), (0xfb2a, 0xfb36),
  (0xfb38, 0xfb3c), (0xfb3e, 0xfb3e), (0xfb40, 0xfb41), (0xfb43, 0xfb44), (0xfb46, 0xfbb1),
  (0xfbd3, 0xfd3d), (0xfd50, 0xfd8f), (0xfd92, 0xfdc7), (0xfdf0, 0xfdfc), (0xfe70, 0xfe74),
  (0xfe76, 0xfefc)]

/-- Characters of scripts that are written from left to right. -/
def rightward : List (Nat × Nat) := [
  (0x41, 0x5a), (0x61, 0x7a), (0xaa, 0xaa), (0xb5, 0xb5), (0xba, 0xba), (0xc0, 0xd6), (0xd8, 0xf6),
  (0xf8, 0x220), (0x222, 0x233), (0x250, 0x2ad), (0x2b0, 0x2b8), (0x2bb, 0x2c1), (0x2d0, 0x2d1),
  (0x2e0, 0x2e4), (0x2ee, 0x2ee), (0x37a, 0x37a), (0x386, 0x386), (0x388, 0x38a), (0x38c, 0x38c),
  (0x38e, 0x3a1), (0x3a3, 0x3ce), (0x3d0, 0x3f5), (0x400, 0x482), (0x48a, 0x4ce), (0x4d0, 0x4f5),
  (0x4f8, 0x4f9), (0x500, 0x50f), (0x531, 0x556), (0x559, 0x55f), (0x561, 0x587), (0x589, 0x589),
  (0x903, 0x903), (0x905, 0x939), (0x93d, 0x940), (0x949, 0x94c), (0x950, 0x950), (0x958, 0x961),
  (0x964, 0x970), (0x982, 0x983), (0x985, 0x98c), (0x98f, 0x990), (0x993, 0x9a8), (0x9aa, 0x9b0),
  (0x9b2, 0x9b2), (0x9b6, 0x9b9), (0x9be, 0x9c0), (0x9c7, 0x9c8), (0x9cb, 0x9cc), (0x9d7, 0x9d7),
  (0x9dc, 0x9dd), (0x9df, 0x9e1), (0x9e6, 0x9f1), (0x9f4, 0x9fa), (0xa05, 0xa0a), (0xa0f, 0xa10),
  (0xa13, 0xa28), (0xa2a, 0xa30), (0xa32, 0xa33), (0xa35, 0xa36), (0xa38, 0xa39), (0xa3e, 0xa40),
  (0xa59, 0xa5c), (0xa5e, 0xa5e), (0xa66, 0xa6f), (0xa72, 0xa74), (0xa83, 0xa83), (0xa85, 0xa8b),
  (0xa8d, 0xa8d), (0xa8f, 0xa91), (0xa93, 0xaa8), (0xaaa, 0xab0), (0xab2, 0xab3), (0xab5, 0xab9),
  (0xabd, 0xac0), (0xac9, 0xac9), (0xacb, 0xacc), (0xad0, 0xad0), (0xae0, 0xae0), (0xae6, 0xaef),
  (0xb02, 0xb03), (0xb05, 0xb0c), (0xb0f, 0xb10), (0xb13, 0xb28), (0xb2a, 0xb30), (0xb32, 0xb33),
  (0xb36, 0xb39), (0xb3d, 0xb3e), (0xb40, 0xb40), (0xb47, 0xb48), (0xb4b, 0xb4c), (0xb57, 0xb57),
  (0xb5c, 0xb5d), (0xb5f, 0xb61), (0xb66, 0xb70), (0xb83, 0xb83), (0xb85, 0xb8a), (0xb8e, 0xb90),
  (0xb92, 0xb95), (0xb99, 0xb9a), (0xb9c, 0xb9c), (0xb9e, 0xb9f), (0xba3, 0xba4), (0xba8, 0xbaa),
  (0xbae, 0xbb5), (0xbb7, 0xbb9), (0xbbe, 0xbbf), (0xbc1, 0xbc2), (0xbc6, 0xbc8), (0xbca, 0xbcc),
  (0xbd7, 0xbd7), (0xbe7, 0xbf2), (0xc01, 0xc03), (0xc05, 0xc0c), (0xc0e, 0xc10), (0xc12, 0xc28),
  (0xc2a, 0xc33), (0xc35, 0xc39), (0xc41, 0xc44), (0xc60, 0xc61), (0xc66, 0xc6f), (0xc82, 0xc83),
  (0xc85, 0xc8c), (0xc8e, 0xc90), (0xc92, 0xca8), (0xcaa, 0xcb3), (0xcb5, 0xcb9), (0xcbe, 0xcbe),
  (0xcc0, 0xcc4), (0xcc7, 0xcc8), (0xcca, 0xccb), (0xcd5, 0xcd6), (0xcde, 0xcde), (0xce0, 0xce1),
  (0xce6, 0xcef), (0xd02, 0xd03), (0xd05, 0xd0c), (0xd0e, 0xd10), (0xd12, 0xd28), (0xd2a, 0xd39),
  (0xd3e, 0xd40), (0xd46, 0xd48), (0xd4a, 0xd4c), (0xd57, 0xd57), (0xd60, 0xd61), (0xd66, 0xd6f),
  (0xd82, 0xd83), (0xd85, 0xd96), (0xd9a, 0xdb1), (0xdb3, 0xdbb), (0xdbd, 0xdbd), (0xdc0, 0xdc6),
  (0xdcf, 0xdd1), (0xdd8, 0xddf), (0xdf2, 0xdf4), (0xe01, 0xe30), (0xe32, 0xe33), (0xe40, 0xe46),
  (0xe4f, 0xe5b), (0xe81, 0xe82), (0xe84, 0xe84), (0xe87, 0xe88), (0xe8a, 0xe8a), (0xe8d, 0xe8d),
  (0xe94, 0xe97), (0xe99, 0xe9f), (0xea1, 0xea3), (0xea5, 0xea5), (0xea7, 0xea7), (0xeaa, 0xeab),
  (0xead, 0xeb0), (0xeb2, 0xeb3), (0xebd, 0xebd), (0xec0, 0xec4), (0xec6, 0xec6), (0xed0, 0xed9),
  (0xedc, 0xedd), (0xf00, 0xf17), (0xf1a, 0xf34), (0xf36, 0xf36), (0xf38, 0xf38), (0xf3e, 0xf47),
  (0xf49, 0xf6a), (0xf7f, 0xf7f), (0xf85, 0xf85), (0xf88, 0xf8b), (0xfbe, 0xfc5), (0xfc7, 0xfcc),
  (0xfcf, 0xfcf), (0x1000, 0x1021), (0x1023, 0x1027), (0x1029, 0x102a), (0x102c, 0x102c),
  (0x1031, 0x1031), (0x1038, 0x1038), (0x1040, 0x1057), (0x10a0, 0x10c5), (0x10d0, 0x10f8),
  (0x10fb, 0x10fb), (0x1100, 0x1159), (0x115f, 0x11a2), (0x11a8, 0x11f9), (0x1200, 0x1206),
  (0x1208, 0x1246), (0x1248, 0x1248), (0x124a, 0x124d), (0x1250, 0x1256), (0x1258, 0x1258),
  (0x125a, 0x125d), (0x1260, 0x1286), (0x1288, 0x1288), (0x128a, 0x128d), (0x1290, 0x12ae),
  (0x12b0, 0x12b0), (0x12b2, 0x12b5), (0x12b8, 0x12be), (0x12c0, 0x12c0), (0x12c2, 0x12c5),
  (0x12c8, 0x12ce), (0x12d0, 0x12d6), (0x12d8, 0x12ee), (0x12f0, 0x130e), (0x1310, 0x1310),
  (0x1312, 0x1315), (0x1318, 0x131e), (0x1320, 0x1346), (0x1348, 0x135a), (0x1361, 0x137c),
  (0x13a0, 0x13f4), (0x1401, 0x1676), (0x1681, 0x169a), (0x16a0, 0x16f0), (0x1700, 0x170c),
  (0x170e, 0x1711), (0x1720, 0x1731), (0x1735, 0x1736), (0x1740, 0x1751), (0x1760, 0x176c),
  (0x176e, 0x1770), (0x1780, 0x17b6), (0x17be, 0x17c5), (0x17c7, 0x17c8), (0x17d4, 0x17da),
  (0x17dc, 0x17dc), (0x17e0, 0x17e9), (0x1810, 0x1819), (0x1820, 0x1877), (0x1880, 0x18a8),
  (0x1e00, 0x1e9b), (0x1ea0, 0x1ef9), (0x1f00, 0x1f15), (0x1f18, 0x1f1d), (0x1f20, 0x1f45),
  (0x1f48, 0x1f4d), (0x1f50, 0x1f57), (0x1f59, 0x1f59), (0x1f5b, 0x1f5b), (0x1f5d, 0x1f5d),
  (0x1f5f, 0x1f7d), (0x1f80, 0x1fb4), (0x1fb6, 0x1fbc), (0x1fbe, 0x1fbe), (0x1fc2, 0x1fc4),
  (0x1fc6, 0x1fcc), (0x1fd0, 0x1fd3), (0x1fd6, 0x1fdb), (0x1fe0, 0x1fec), (0x1ff2, 0x1ff4),
  (0x1ff6, 0x1ffc), (0x200e, 0x200e), (0x2071, 0x2071), (0x207f, 0x207f), (0x2102, 0x2102),
  (0x2107, 0x2107), (0x210a, 0x2113), (0x2115, 0x2115), (0x2119, 0x211d), (0x2124, 0x2124),
  (0x2126, 0x2126), (0x2128, 0x2128), (0x212a, 0x212d), (0x212f, 0x2131), (0x2133, 0x2139),
  (0x213d, 0x213f), (0x2145, 0x2149), (0x2160, 0x2183), (0x2336, 0x237a), (0x2395, 0x2395),
  (0x249c, 0x24e9), (0x3005, 0x3007), (0x3021, 0x3029), (0x3031, 0x3035), (0x3038, 0x303c),
  (0x3041, 0x3096), (0x309d, 0x309f), (0x30a1, 0x30fa), (0x30fc, 0x30ff), (0x3105, 0x312c),
  (0x3131, 0x318e), (0x3190, 0x31b7), (0x31f0, 0x321c), (0x3220, 0x3243), (0x3260, 0x327b),
  (0x327f, 0x32b0), (0x32c0, 0x32cb), (0x32d0, 0x32fe), (0x3300, 0x3376), (0x337b, 0x33dd),
  (0x33e0, 0x33fe), (0x3400, 0x4db5), (0x4e00, 0x9fa5), (0xa000, 0xa48c), (0xac00, 0xd7a3),
  (0xd800, 0xfa2d), (0xfa30, 0xfa6a), (0xfb00, 0xfb06), (0xfb13, 0xfb17), (0xff21, 0xff3a),
  (0xff41, 0xff5a), (0xff66, 0xffbe), (0xffc2, 0xffc7), (0xffca, 0xffcf), (0xffd2, 0xffd7),
  (0xffda, 0xffdc), (0x10300, 0x1031e), (0x10320, 0x10323), (0x10330, 0x1034a), (0x10400, 0x10425),
  (0x10428, 0x1044d), (0x1d000, 0x1d0f5), (0x1d100, 0x1d126), (0x1d12a, 0x1d166),
  (0x1d16a, 0x1d172), (0x1d183, 0x1d184), (0x1d18c, 0x1d1a9), (0x1d1ae, 0x1d1dd),
  (0x1d400, 0x1d454), (0x1d456, 0x1d49c), (0x1d49e, 0x1d49f), (0x1d4a2, 0x1d4a2),
  (0x1d4a5, 0x1d4a6), (0x1d4a9, 0x1d4ac), (0x1d4ae, 0x1d4b9), (0x1d4bb, 0x1d4bb),
  (0x1d4bd, 0x1d4c0), (0x1d4c2, 0x1d4c3), (0x1d4c5, 0x1d505), (0x1d507, 0x1d50a),
  (0x1d50d, 0x1d514), (0x1d516, 0x1d51c), (0x1d51e, 0x1d539), (0x1d53b, 0x1d53e),
  (0x1d540, 0x1d544), (0x1d546, 0x1d546), (0x1d54a, 0x1d550), (0x1d552, 0x1d6a3),
  (0x1d6a8, 0x1d7c9), (0x20000, 0x2a6d6), (0x2f800, 0x2fa1d), (0xf0000, 0xffffd),
  (0x100000, 0x10fffd)]

end Tweaks.Text
