import Telematics.Text.CharacterMap

/-!
Capital letters. A few letters become several.
-/

namespace Telematics.Text

/-- What letters become. -/
def capitals : CharacterMap := [
  ⟨0x61, ["A\nB\nC\nD\nE\nF\nG\nH\nI\nJ\nK\nL\nM\nN\nO\nP\nQ\nR\nS\nT\nU\nV\nW\nX\nY\nZ"]⟩,
  ⟨0xb5, ["Μ"]⟩,
  ⟨0xdf, ["SS\nÀ\nÁ\nÂ\nÃ\nÄ\nÅ\nÆ\nÇ\nÈ\nÉ\nÊ\nË\nÌ\nÍ\nÎ\nÏ\nÐ\nÑ\nÒ\nÓ\nÔ\nÕ\nÖ\n÷\nØ\nÙ\nÚ",
    "Û\nÜ\nÝ\nÞ\nŸ\nĀ\nĀ\nĂ\nĂ\nĄ\nĄ\nĆ\nĆ\nĈ\nĈ\nĊ\nĊ\nČ\nČ\nĎ\nĎ\nĐ\nĐ\nĒ\nĒ\nĔ\nĔ\nĖ\nĖ\nĘ",
    "Ę\nĚ\nĚ\nĜ\nĜ\nĞ\nĞ\nĠ\nĠ\nĢ\nĢ\nĤ\nĤ\nĦ\nĦ\nĨ\nĨ\nĪ\nĪ\nĬ\nĬ\nĮ\nĮ\nİ\nI\nĲ\nĲ\nĴ\nĴ\nĶ",
    "Ķ\nĸ\nĹ\nĹ\nĻ\nĻ\nĽ\nĽ\nĿ\nĿ\nŁ\nŁ\nŃ\nŃ\nŅ\nŅ\nŇ\nŇ\nʼN\nŊ\nŊ\nŌ\nŌ\nŎ\nŎ\nŐ\nŐ\nŒ\nŒ",
    "Ŕ\nŔ\nŖ\nŖ\nŘ\nŘ\nŚ\nŚ\nŜ\nŜ\nŞ\nŞ\nŠ\nŠ\nŢ\nŢ\nŤ\nŤ\nŦ\nŦ\nŨ\nŨ\nŪ\nŪ\nŬ\nŬ\nŮ\nŮ\nŰ\nŰ",
    "Ų\nŲ\nŴ\nŴ\nŶ\nŶ\nŸ\nŹ\nŹ\nŻ\nŻ\nŽ\nŽ\nS\nɃ\nƁ\nƂ\nƂ\nƄ\nƄ\nƆ\nƇ\nƇ\nƉ\nƊ\nƋ\nƋ"]⟩,
  ⟨0x192, ["Ƒ\nƓ\nƔ\nǶ\nƖ\nƗ\nƘ\nƘ\nȽ\nƛ\nƜ\nƝ\nȠ\nƟ\nƠ\nƠ\nƢ\nƢ\nƤ\nƤ\nƦ\nƧ\nƧ"]⟩,
  ⟨0x1ad, ["Ƭ\nƮ\nƯ\nƯ\nƱ\nƲ\nƳ\nƳ\nƵ\nƵ\nƷ\nƸ\nƸ\nƺ\nƻ\nƼ\nƼ\nƾ\nǷ"]⟩,
  ⟨0x1c5, ["Ǆ\nǄ\nǇ\nǇ\nǇ\nǊ\nǊ\nǊ\nǍ\nǍ\nǏ\nǏ\nǑ\nǑ\nǓ\nǓ\nǕ\nǕ\nǗ\nǗ\nǙ\nǙ\nǛ\nǛ\nƎ\nǞ\nǞ\nǠ",
    "Ǡ\nǢ\nǢ\nǤ\nǤ\nǦ\nǦ\nǨ\nǨ\nǪ\nǪ\nǬ\nǬ\nǮ\nǮ\nJ\u030c\nǱ\nǱ\nǱ\nǴ\nǴ\nǶ\nǷ\nǸ\nǸ\nǺ\nǺ\nǼ",
    "Ǽ\nǾ\nǾ\nȀ\nȀ\nȂ\nȂ\nȄ\nȄ\nȆ\nȆ\nȈ\nȈ\nȊ\nȊ\nȌ\nȌ\nȎ\nȎ\nȐ\nȐ\nȒ\nȒ\nȔ\nȔ\nȖ\nȖ\nȘ\nȘ\nȚ",
    "Ț\nȜ\nȜ\nȞ\nȞ\nȠ\nȡ\nȢ\nȢ\nȤ\nȤ\nȦ\nȦ\nȨ\nȨ\nȪ\nȪ\nȬ\nȬ\nȮ\nȮ\nȰ\nȰ\nȲ\nȲ"]⟩,
  ⟨0x23c, ["Ȼ\nȽ\nȾ\nⱾ\nⱿ\nɁ\nɁ"]⟩,
  ⟨0x247, ["Ɇ\nɈ\nɈ\nɊ\nɊ\nɌ\nɌ\nɎ\nɎ\nⱯ\nⱭ\nⱰ\nƁ\nƆ\nɕ\nƉ\nƊ\nɘ\nƏ\nɚ\nƐ\nꞫ\nɝ\nɞ\nɟ\nƓ\nꞬ\nɢ",
    "Ɣ\nɤ\nꞍ\nꞪ\nɧ\nƗ\nƖ\nꞮ\nⱢ\nꞭ\nɭ\nɮ\nƜ\nɰ\nⱮ\nƝ\nɳ\nɴ\nƟ"]⟩,
  ⟨0x27d, ["Ɽ\nɾ\nɿ\nƦ\nʁ\nꟅ\nƩ\nʄ\nʅ\nʆ\nꞱ\nƮ\nɄ\nƱ\nƲ\nɅ"]⟩,
  ⟨0x292, ["Ʒ"]⟩,
  ⟨0x29d, ["Ʝ\nꞰ"]⟩,
  ⟨0x345, ["Ι"]⟩,
  ⟨0x371, ["Ͱ\nͲ\nͲ\n\u0374\n͵\nͶ\nͶ\n\u0378\n\u0379\nͺ\nϽ\nϾ\nϿ"]⟩,
  ⟨0x390, ["Ι\u0308\u0301"]⟩,
  ⟨0x3ac, ["Ά\nΈ\nΉ\nΊ\nΥ\u0308\u0301\nΑ\nΒ\nΓ\nΔ\nΕ\nΖ\nΗ\nΘ\nΙ\nΚ\nΛ\nΜ\nΝ\nΞ\nΟ\nΠ\nΡ\nΣ\nΣ",
    "Τ\nΥ\nΦ\nΧ\nΨ\nΩ\nΪ\nΫ\nΌ\nΎ\nΏ\nϏ\nΒ\nΘ\nϒ\nϓ\nϔ\nΦ\nΠ\nϏ\nϘ\nϘ\nϚ\nϚ\nϜ\nϜ\nϞ\nϞ\nϠ\nϠ",
    "Ϣ\nϢ\nϤ\nϤ\nϦ\nϦ\nϨ\nϨ\nϪ\nϪ\nϬ\nϬ\nϮ\nϮ\nΚ\nΡ\nϹ\nͿ\nϴ\nΕ\n϶\nϷ\nϷ\nϹ\nϺ\nϺ"]⟩,
  ⟨0x430, ["А\nБ\nВ\nГ\nД\nЕ\nЖ\nЗ\nИ\nЙ\nК\nЛ\nМ\nН\nО\nП\nР\nС\nТ\nУ\nФ\nХ\nЦ\nЧ\nШ\nЩ\nЪ\nЫ",
    "Ь\nЭ\nЮ\nЯ\nЀ\nЁ\nЂ\nЃ\nЄ\nЅ\nІ\nЇ\nЈ\nЉ\nЊ\nЋ\nЌ\nЍ\nЎ\nЏ\nѠ\nѠ\nѢ\nѢ\nѤ\nѤ\nѦ\nѦ\nѨ\nѨ",
    "Ѫ\nѪ\nѬ\nѬ\nѮ\nѮ\nѰ\nѰ\nѲ\nѲ\nѴ\nѴ\nѶ\nѶ\nѸ\nѸ\nѺ\nѺ\nѼ\nѼ\nѾ\nѾ\nҀ\nҀ"]⟩,
  ⟨0x48b, ["Ҋ\nҌ\nҌ\nҎ\nҎ\nҐ\nҐ\nҒ\nҒ\nҔ\nҔ\nҖ\nҖ\nҘ\nҘ\nҚ\nҚ\nҜ\nҜ\nҞ\nҞ\nҠ\nҠ\nҢ\nҢ\nҤ\nҤ\nҦ",
    "Ҧ\nҨ\nҨ\nҪ\nҪ\nҬ\nҬ\nҮ\nҮ\nҰ\nҰ\nҲ\nҲ\nҴ\nҴ\nҶ\nҶ\nҸ\nҸ\nҺ\nҺ\nҼ\nҼ\nҾ\nҾ\nӀ\nӁ\nӁ\nӃ\nӃ",
    "Ӆ\nӅ\nӇ\nӇ\nӉ\nӉ\nӋ\nӋ\nӍ\nӍ\nӀ\nӐ\nӐ\nӒ\nӒ\nӔ\nӔ\nӖ\nӖ\nӘ\nӘ\nӚ\nӚ\nӜ\nӜ\nӞ\nӞ\nӠ\nӠ\nӢ",
    "Ӣ\nӤ\nӤ\nӦ\nӦ\nӨ\nӨ\nӪ\nӪ\nӬ\nӬ\nӮ\nӮ\nӰ\nӰ\nӲ\nӲ\nӴ\nӴ\nӶ\nӶ\nӸ\nӸ\nӺ\nӺ\nӼ\nӼ\nӾ\nӾ\nԀ",
    "Ԁ\nԂ\nԂ\nԄ\nԄ\nԆ\nԆ\nԈ\nԈ\nԊ\nԊ\nԌ\nԌ\nԎ\nԎ\nԐ\nԐ\nԒ\nԒ\nԔ\nԔ\nԖ\nԖ\nԘ\nԘ\nԚ\nԚ\nԜ\nԜ\nԞ",
    "Ԟ\nԠ\nԠ\nԢ\nԢ\nԤ\nԤ\nԦ\nԦ\nԨ\nԨ\nԪ\nԪ\nԬ\nԬ\nԮ\nԮ"]⟩,
  ⟨0x561, ["Ա\nԲ\nԳ\nԴ\nԵ\nԶ\nԷ\nԸ\nԹ\nԺ\nԻ\nԼ\nԽ\nԾ\nԿ\nՀ\nՁ\nՂ\nՃ\nՄ\nՅ\nՆ\nՇ\nՈ\nՉ\nՊ\nՋ\nՌ",
    "Ս\nՎ\nՏ\nՐ\nՑ\nՒ\nՓ\nՔ\nՕ\nՖ\nԵՒ"]⟩,
  ⟨0x10d0, ["Ა\nᲑ\nᲒ\nᲓ\nᲔ\nᲕ\nᲖ\nᲗ\nᲘ\nᲙ\nᲚ\nᲛ\nᲜ\nᲝ\nᲞ\nᲟ\nᲠ\nᲡ\nᲢ\nᲣ\nᲤ\nᲥ\nᲦ\nᲧ\nᲨ\nᲩ\nᲪ",
    "Ძ\nᲬ\nᲭ\nᲮ\nᲯ\nᲰ\nᲱ\nᲲ\nᲳ\nᲴ\nᲵ\nᲶ\nᲷ\nᲸ\nᲹ\nᲺ\n჻\nჼ\nᲽ\nᲾ\nᲿ"]⟩,
  ⟨0x13f8, ["Ᏸ\nᏱ\nᏲ\nᏳ\nᏴ\nᏵ"]⟩,
  ⟨0x1c80, ["В\nД\nО\nС\nТ\nТ\nЪ\nѢ\nꙊ"]⟩,
  ⟨0x1d79, ["Ᵹ\nᵺ\nᵻ\nᵼ\nⱣ"]⟩,
  ⟨0x1d8e, ["Ᶎ"]⟩,
  ⟨0x1e01, ["Ḁ\nḂ\nḂ\nḄ\nḄ\nḆ\nḆ\nḈ\nḈ\nḊ\nḊ\nḌ\nḌ\nḎ\nḎ\nḐ\nḐ\nḒ\nḒ\nḔ\nḔ\nḖ\nḖ\nḘ\nḘ\nḚ\nḚ",
    "Ḝ\nḜ\nḞ\nḞ\nḠ\nḠ\nḢ\nḢ\nḤ\nḤ\nḦ\nḦ\nḨ\nḨ\nḪ\nḪ\nḬ\nḬ\nḮ\nḮ\nḰ\nḰ\nḲ\nḲ\nḴ\nḴ\nḶ\nḶ\nḸ\nḸ",
    "Ḻ\nḺ\nḼ\nḼ\nḾ\nḾ\nṀ\nṀ\nṂ\nṂ\nṄ\nṄ\nṆ\nṆ\nṈ\nṈ\nṊ\nṊ\nṌ\nṌ\nṎ\nṎ\nṐ\nṐ\nṒ\nṒ\nṔ\nṔ\nṖ\nṖ",
    "Ṙ\nṘ\nṚ\nṚ\nṜ\nṜ\nṞ\nṞ\nṠ\nṠ\nṢ\nṢ\nṤ\nṤ\nṦ\nṦ\nṨ\nṨ\nṪ\nṪ\nṬ\nṬ\nṮ\nṮ\nṰ\nṰ\nṲ\nṲ\nṴ\nṴ",
    "Ṷ\nṶ\nṸ\nṸ\nṺ\nṺ\nṼ\nṼ\nṾ\nṾ\nẀ\nẀ\nẂ\nẂ\nẄ\nẄ\nẆ\nẆ\nẈ\nẈ\nẊ\nẊ\nẌ\nẌ\nẎ\nẎ\nẐ\nẐ\nẒ\nẒ",
    "Ẕ\nẔ\nH\u0331\nT\u0308\nW\u030a\nY\u030a\nAʾ\nṠ"]⟩,
  ⟨0x1ea1, ["Ạ\nẢ\nẢ\nẤ\nẤ\nẦ\nẦ\nẨ\nẨ\nẪ\nẪ\nẬ\nẬ\nẮ\nẮ\nẰ\nẰ\nẲ\nẲ\nẴ\nẴ\nẶ\nẶ\nẸ\nẸ\nẺ\nẺ",
    "Ẽ\nẼ\nẾ\nẾ\nỀ\nỀ\nỂ\nỂ\nỄ\nỄ\nỆ\nỆ\nỈ\nỈ\nỊ\nỊ\nỌ\nỌ\nỎ\nỎ\nỐ\nỐ\nỒ\nỒ\nỔ\nỔ\nỖ\nỖ\nỘ\nỘ",
    "Ớ\nỚ\nỜ\nỜ\nỞ\nỞ\nỠ\nỠ\nỢ\nỢ\nỤ\nỤ\nỦ\nỦ\nỨ\nỨ\nỪ\nỪ\nỬ\nỬ\nỮ\nỮ\nỰ\nỰ\nỲ\nỲ\nỴ\nỴ\nỶ\nỶ",
    "Ỹ\nỸ\nỺ\nỺ\nỼ\nỼ\nỾ\nỾ\nἈ\nἉ\nἊ\nἋ\nἌ\nἍ\nἎ\nἏ"]⟩,
  ⟨0x1f10, ["Ἐ\nἙ\nἚ\nἛ\nἜ\nἝ"]⟩,
  ⟨0x1f20, ["Ἠ\nἩ\nἪ\nἫ\nἬ\nἭ\nἮ\nἯ"]⟩,
  ⟨0x1f30, ["Ἰ\nἹ\nἺ\nἻ\nἼ\nἽ\nἾ\nἿ"]⟩,
  ⟨0x1f40, ["Ὀ\nὉ\nὊ\nὋ\nὌ\nὍ"]⟩,
  ⟨0x1f50, ["Υ\u0313\nὙ\nΥ\u0313\u0300\nὛ\nΥ\u0313\u0301\nὝ\nΥ\u0313\u0342\nὟ"]⟩,
  ⟨0x1f60, ["Ὠ\nὩ\nὪ\nὫ\nὬ\nὭ\nὮ\nὯ"]⟩,
  ⟨0x1f70, ["Ὰ\n\u1fbb\nῈ\n\u1fc9\nῊ\n\u1fcb\nῚ\n\u1fdb\nῸ\n\u1ff9\nῪ\n\u1feb\nῺ\n\u1ffb",
    "\u1f7e\n\u1f7f\nἈΙ\nἉΙ\nἊΙ\nἋΙ\nἌΙ\nἍΙ\nἎΙ\nἏΙ\nἈΙ\nἉΙ\nἊΙ\nἋΙ\nἌΙ\nἍΙ\nἎΙ\nἏΙ\nἨΙ\nἩΙ",
    "ἪΙ\nἫΙ\nἬΙ\nἭΙ\nἮΙ\nἯΙ\nἨΙ\nἩΙ\nἪΙ\nἫΙ\nἬΙ\nἭΙ\nἮΙ\nἯΙ\nὨΙ\nὩΙ\nὪΙ\nὫΙ\nὬΙ\nὭΙ\nὮΙ\nὯΙ",
    "ὨΙ\nὩΙ\nὪΙ\nὫΙ\nὬΙ\nὭΙ\nὮΙ\nὯΙ\nᾸ\nᾹ\nᾺΙ\nΑΙ\nΆΙ\n\u1fb5\nΑ\u0342\nΑ\u0342Ι"]⟩,
  ⟨0x1fbc, ["ΑΙ\n᾽\nΙ\n᾿\n῀\n῁\nῊΙ\nΗΙ\nΉΙ\n\u1fc5\nΗ\u0342\nΗ\u0342Ι"]⟩,
  ⟨0x1fcc, ["ΗΙ\n῍\n῎\n῏\nῘ\nῙ\nΙ\u0308\u0300\nΙ\u0308\u0301\n\u1fd4\n\u1fd5\nΙ\u0342",
    "Ι\u0308\u0342"]⟩,
  ⟨0x1fe0, ["Ῠ\nῩ\nΥ\u0308\u0300\nΥ\u0308\u0301\nΡ\u0313\nῬ\nΥ\u0342\nΥ\u0308\u0342"]⟩,
  ⟨0x1ff2, ["ῺΙ\nΩΙ\nΏΙ\n\u1ff5\nΩ\u0342\nΩ\u0342Ι"]⟩,
  ⟨0x1ffc, ["ΩΙ"]⟩,
  ⟨0x214e, ["Ⅎ"]⟩,
  ⟨0x2170, ["Ⅰ\nⅡ\nⅢ\nⅣ\nⅤ\nⅥ\nⅦ\nⅧ\nⅨ\nⅩ\nⅪ\nⅫ\nⅬ\nⅭ\nⅮ\nⅯ"]⟩,
  ⟨0x2184, ["Ↄ"]⟩,
  ⟨0x24d0, ["Ⓐ\nⒷ\nⒸ\nⒹ\nⒺ\nⒻ\nⒼ\nⒽ\nⒾ\nⒿ\nⓀ\nⓁ\nⓂ\nⓃ\nⓄ\nⓅ\nⓆ\nⓇ\nⓈ\nⓉ\nⓊ\nⓋ\nⓌ\nⓍ\nⓎ\nⓏ"]⟩,
  ⟨0x2c30, ["Ⰰ\nⰁ\nⰂ\nⰃ\nⰄ\nⰅ\nⰆ\nⰇ\nⰈ\nⰉ\nⰊ\nⰋ\nⰌ\nⰍ\nⰎ\nⰏ\nⰐ\nⰑ\nⰒ\nⰓ\nⰔ\nⰕ\nⰖ\nⰗ\nⰘ\nⰙ\nⰚ",
    "Ⱋ\nⰜ\nⰝ\nⰞ\nⰟ\nⰠ\nⰡ\nⰢ\nⰣ\nⰤ\nⰥ\nⰦ\nⰧ\nⰨ\nⰩ\nⰪ\nⰫ\nⰬ\nⰭ\nⰮ\nⰯ\nⱠ\nⱠ\nⱢ\nⱣ\nⱤ\nȺ\nȾ\nⱧ\nⱧ",
    "Ⱪ\nⱩ\nⱫ\nⱫ"]⟩,
  ⟨0x2c73, ["Ⱳ\nⱴ\nⱵ\nⱵ"]⟩,
  ⟨0x2c81, ["Ⲁ\nⲂ\nⲂ\nⲄ\nⲄ\nⲆ\nⲆ\nⲈ\nⲈ\nⲊ\nⲊ\nⲌ\nⲌ\nⲎ\nⲎ\nⲐ\nⲐ\nⲒ\nⲒ\nⲔ\nⲔ\nⲖ\nⲖ\nⲘ\nⲘ\nⲚ\nⲚ",
    "Ⲝ\nⲜ\nⲞ\nⲞ\nⲠ\nⲠ\nⲢ\nⲢ\nⲤ\nⲤ\nⲦ\nⲦ\nⲨ\nⲨ\nⲪ\nⲪ\nⲬ\nⲬ\nⲮ\nⲮ\nⲰ\nⲰ\nⲲ\nⲲ\nⲴ\nⲴ\nⲶ\nⲶ\nⲸ\nⲸ",
    "Ⲻ\nⲺ\nⲼ\nⲼ\nⲾ\nⲾ\nⳀ\nⳀ\nⳂ\nⳂ\nⳄ\nⳄ\nⳆ\nⳆ\nⳈ\nⳈ\nⳊ\nⳊ\nⳌ\nⳌ\nⳎ\nⳎ\nⳐ\nⳐ\nⳒ\nⳒ\nⳔ\nⳔ\nⳖ\nⳖ",
    "Ⳙ\nⳘ\nⳚ\nⳚ\nⳜ\nⳜ\nⳞ\nⳞ\nⳠ\nⳠ\nⳢ\nⳢ"]⟩,
  ⟨0x2cec, ["Ⳬ\nⳭ\nⳭ"]⟩,
  ⟨0x2cf3, ["Ⳳ"]⟩,
  ⟨0x2d00, ["Ⴀ\nႡ\nႢ\nႣ\nႤ\nႥ\nႦ\nႧ\nႨ\nႩ\nႪ\nႫ\nႬ\nႭ\nႮ\nႯ\nႰ\nႱ\nႲ\nႳ\nႴ\nႵ\nႶ\nႷ\nႸ\nႹ\nႺ",
    "Ⴛ\nႼ\nႽ\nႾ\nႿ\nჀ\nჁ\nჂ\nჃ\nჄ\nჅ\n\u2d26\nჇ"]⟩,
  ⟨0x2d2d, ["Ⴭ"]⟩,
  ⟨0xa641, ["Ꙁ\nꙂ\nꙂ\nꙄ\nꙄ\nꙆ\nꙆ\nꙈ\nꙈ\nꙊ\nꙊ\nꙌ\nꙌ\nꙎ\nꙎ\nꙐ\nꙐ\nꙒ\nꙒ\nꙔ\nꙔ\nꙖ\nꙖ\nꙘ\nꙘ\nꙚ\nꙚ",
    "Ꙝ\nꙜ\nꙞ\nꙞ\nꙠ\nꙠ\nꙢ\nꙢ\nꙤ\nꙤ\nꙦ\nꙦ\nꙨ\nꙨ\nꙪ\nꙪ\nꙬ\nꙬ"]⟩,
  ⟨0xa681, ["Ꚁ\nꚂ\nꚂ\nꚄ\nꚄ\nꚆ\nꚆ\nꚈ\nꚈ\nꚊ\nꚊ\nꚌ\nꚌ\nꚎ\nꚎ\nꚐ\nꚐ\nꚒ\nꚒ\nꚔ\nꚔ\nꚖ\nꚖ\nꚘ\nꚘ\nꚚ\nꚚ"]⟩,
  ⟨0xa723, ["Ꜣ\nꜤ\nꜤ\nꜦ\nꜦ\nꜨ\nꜨ\nꜪ\nꜪ\nꜬ\nꜬ\nꜮ\nꜮ\nꜰ\nꜱ\nꜲ\nꜲ\nꜴ\nꜴ\nꜶ\nꜶ\nꜸ\nꜸ\nꜺ\nꜺ\nꜼ\nꜼ",
    "Ꜿ\nꜾ\nꝀ\nꝀ\nꝂ\nꝂ\nꝄ\nꝄ\nꝆ\nꝆ\nꝈ\nꝈ\nꝊ\nꝊ\nꝌ\nꝌ\nꝎ\nꝎ\nꝐ\nꝐ\nꝒ\nꝒ\nꝔ\nꝔ\nꝖ\nꝖ\nꝘ\nꝘ\nꝚ\nꝚ",
    "Ꝝ\nꝜ\nꝞ\nꝞ\nꝠ\nꝠ\nꝢ\nꝢ\nꝤ\nꝤ\nꝦ\nꝦ\nꝨ\nꝨ\nꝪ\nꝪ\nꝬ\nꝬ\nꝮ\nꝮ"]⟩,
  ⟨0xa77a, ["Ꝺ\nꝻ\nꝻ\nꝽ\nꝾ\nꝾ\nꞀ\nꞀ\nꞂ\nꞂ\nꞄ\nꞄ\nꞆ\nꞆ"]⟩,
  ⟨0xa78c, ["Ꞌ"]⟩,
  ⟨0xa791, ["Ꞑ\nꞒ\nꞒ\nꟄ\nꞕ\nꞖ\nꞖ\nꞘ\nꞘ\nꞚ\nꞚ\nꞜ\nꞜ\nꞞ\nꞞ\nꞠ\nꞠ\nꞢ\nꞢ\nꞤ\nꞤ\nꞦ\nꞦ\nꞨ\nꞨ"]⟩,
  ⟨0xa7b5, ["Ꞵ\nꞶ\nꞶ\nꞸ\nꞸ\nꞺ\nꞺ\nꞼ\nꞼ\nꞾ\nꞾ\nꟀ\nꟀ\nꟂ\nꟂ"]⟩,
  ⟨0xa7c8, ["Ꟈ\nꟉ\nꟉ"]⟩,
  ⟨0xa7d1, ["Ꟑ"]⟩,
  ⟨0xa7d7, ["Ꟗ\nꟘ\nꟘ"]⟩,
  ⟨0xa7f6, ["Ꟶ"]⟩,
  ⟨0xab53, ["Ꭓ"]⟩,
  ⟨0xab70, ["Ꭰ\nᎡ\nᎢ\nᎣ\nᎤ\nᎥ\nᎦ\nᎧ\nᎨ\nᎩ\nᎪ\nᎫ\nᎬ\nᎭ\nᎮ\nᎯ\nᎰ\nᎱ\nᎲ\nᎳ\nᎴ\nᎵ\nᎶ\nᎷ\nᎸ\nᎹ\nᎺ",
    "Ꮋ\nᎼ\nᎽ\nᎾ\nᎿ\nᏀ\nᏁ\nᏂ\nᏃ\nᏄ\nᏅ\nᏆ\nᏇ\nᏈ\nᏉ\nᏊ\nᏋ\nᏌ\nᏍ\nᏎ\nᏏ\nᏐ\nᏑ\nᏒ\nᏓ\nᏔ\nᏕ\nᏖ\nᏗ\nᏘ",
    "Ꮩ\nᏚ\nᏛ\nᏜ\nᏝ\nᏞ\nᏟ\nᏠ\nᏡ\nᏢ\nᏣ\nᏤ\nᏥ\nᏦ\nᏧ\nᏨ\nᏩ\nᏪ\nᏫ\nᏬ\nᏭ\nᏮ\nᏯ"]⟩,
  ⟨0xfb00, ["FF\nFI\nFL\nFFI\nFFL\nST\nST"]⟩,
  ⟨0xfb13, ["ՄՆ\nՄԵ\nՄԻ\nՎՆ\nՄԽ"]⟩,
  ⟨0xff41, ["Ａ\nＢ\nＣ\nＤ\nＥ\nＦ\nＧ\nＨ\nＩ\nＪ\nＫ\nＬ\nＭ\nＮ\nＯ\nＰ\nＱ\nＲ\nＳ\nＴ\nＵ\nＶ\nＷ\nＸ\nＹ\nＺ"]⟩,
  ⟨0x10428, ["𐐀\n𐐁\n𐐂\n𐐃\n𐐄\n𐐅\n𐐆\n𐐇\n𐐈\n𐐉\n𐐊\n𐐋\n𐐌\n𐐍\n𐐎\n𐐏\n𐐐\n𐐑\n𐐒\n𐐓\n𐐔\n𐐕\n𐐖\n𐐗\n𐐘\n𐐙\n𐐚",
    "𐐛\n𐐜\n𐐝\n𐐞\n𐐟\n𐐠\n𐐡\n𐐢\n𐐣\n𐐤\n𐐥\n𐐦\n𐐧"]⟩,
  ⟨0x104d8, ["𐒰\n𐒱\n𐒲\n𐒳\n𐒴\n𐒵\n𐒶\n𐒷\n𐒸\n𐒹\n𐒺\n𐒻\n𐒼\n𐒽\n𐒾\n𐒿\n𐓀\n𐓁\n𐓂\n𐓃\n𐓄\n𐓅\n𐓆\n𐓇\n𐓈\n𐓉\n𐓊",
    "𐓋\n𐓌\n𐓍\n𐓎\n𐓏\n𐓐\n𐓑\n𐓒\n𐓓"]⟩,
  ⟨0x10597, ["𐕰\n𐕱\n𐕲\n𐕳\n𐕴\n𐕵\n𐕶\n𐕷\n𐕸\n𐕹\n𐕺\n𐖢\n𐕼\n𐕽\n𐕾\n𐕿\n𐖀\n𐖁\n𐖂\n𐖃\n𐖄\n𐖅\n𐖆\n𐖇\n𐖈\n𐖉\n𐖊",
    "𐖲\n𐖌\n𐖍\n𐖎\n𐖏\n𐖐\n𐖑\n𐖒\n𐖺\n𐖔\n𐖕"]⟩,
  ⟨0x10cc0, ["𐲀\n𐲁\n𐲂\n𐲃\n𐲄\n𐲅\n𐲆\n𐲇\n𐲈\n𐲉\n𐲊\n𐲋\n𐲌\n𐲍\n𐲎\n𐲏\n𐲐\n𐲑\n𐲒\n𐲓\n𐲔\n𐲕\n𐲖\n𐲗\n𐲘\n𐲙\n𐲚",
    "𐲛\n𐲜\n𐲝\n𐲞\n𐲟\n𐲠\n𐲡\n𐲢\n𐲣\n𐲤\n𐲥\n𐲦\n𐲧\n𐲨\n𐲩\n𐲪\n𐲫\n𐲬\n𐲭\n𐲮\n𐲯\n𐲰\n𐲱\n𐲲"]⟩,
  ⟨0x118c0, ["𑢠\n𑢡\n𑢢\n𑢣\n𑢤\n𑢥\n𑢦\n𑢧\n𑢨\n𑢩\n𑢪\n𑢫\n𑢬\n𑢭\n𑢮\n𑢯\n𑢰\n𑢱\n𑢲\n𑢳\n𑢴\n𑢵\n𑢶\n𑢷\n𑢸\n𑢹\n𑢺",
    "𑢻\n𑢼\n𑢽\n𑢾\n𑢿"]⟩,
  ⟨0x16e60, ["𖹀\n𖹁\n𖹂\n𖹃\n𖹄\n𖹅\n𖹆\n𖹇\n𖹈\n𖹉\n𖹊\n𖹋\n𖹌\n𖹍\n𖹎\n𖹏\n𖹐\n𖹑\n𖹒\n𖹓\n𖹔\n𖹕\n𖹖\n𖹗\n𖹘\n𖹙\n𖹚",
    "𖹛\n𖹜\n𖹝\n𖹞\n𖹟"]⟩,
  ⟨0x1e922, ["𞤀\n𞤁\n𞤂\n𞤃\n𞤄\n𞤅\n𞤆\n𞤇\n𞤈\n𞤉\n𞤊\n𞤋\n𞤌\n𞤍\n𞤎\n𞤏\n𞤐\n𞤑\n𞤒\n𞤓\n𞤔\n𞤕\n𞤖\n𞤗\n𞤘\n𞤙\n𞤚",
    "𞤛\n𞤜\n𞤝\n𞤞\n𞤟\n𞤠\n𞤡"]⟩]

/-- A text in capital letters. -/
def upper (text : List Char) : List Char := text.flatMap capitals.apply

end Telematics.Text
