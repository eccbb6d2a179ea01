import DiagramForge.Text.Case

/-!
# Emoji by name

A text may hold the name of an emoji between two colons, such as `:smile:`. A name may be followed
by the variant that is meant, `-emoji` or `-text`. What stands between colons and names nothing is
left as it is, and both colons count as used.

The names are given as words `name,name=code`, with the code points of the emoji in hexadecimal and
dots between them.
-/

namespace DiagramForge.Text

/-- Reads `name,name=code.code`. -/
def readEmoji (cs : List Char) : List (List Char × List Char) :=
  match fields (· == '=') cs with
  | [names, codes] =>
    let emoji := (fields (· == '.') codes).map fun code ↦ Char.ofNat (hexNumber code)
    (fields (· == ',') names).map fun name ↦ (name, emoji)
  | _ => []

/-- The emoji by name. -/
def emojiTable : List (List Char × List Char) :=
  (words isBlank "
keycap_number_sign=23.20e3 keycap_#=23.fe0f.20e3 keycap_asterisk=2a.20e3 keycap_*=2a.fe0f.20e3
keycap_digit_zero=30.20e3 keycap_0,zero=30.fe0f.20e3 keycap_digit_one=31.20e3
keycap_1,one=31.fe0f.20e3 keycap_digit_two=32.20e3 keycap_2,two=32.fe0f.20e3
keycap_digit_three=33.20e3 keycap_3,three=33.fe0f.20e3 keycap_digit_four=34.20e3
keycap_4,four=34.fe0f.20e3 keycap_digit_five=35.20e3 keycap_5,five=35.fe0f.20e3
keycap_digit_six=36.20e3 keycap_6,six=36.fe0f.20e3 keycap_digit_seven=37.20e3
keycap_7,seven=37.fe0f.20e3 keycap_digit_eight=38.20e3 keycap_8,eight=38.fe0f.20e3
keycap_digit_nine=39.20e3 keycap_9,nine=39.fe0f.20e3 copyright=a9 registered=ae
double_exclamation_mark,bangbang=203c exclamation_question_mark,interrobang=2049
trade_mark,tm=2122 information,information_source=2139 left-right_arrow,left_right_arrow=2194
up-down_arrow,arrow_up_down=2195 up-left_arrow,arrow_upper_left=2196
up-right_arrow,arrow_upper_right=2197 down-right_arrow,arrow_lower_right=2198
down-left_arrow,arrow_lower_left=2199 right_arrow_curving_left,leftwards_arrow_with_hook=21a9
left_arrow_curving_right,arrow_right_hook=21aa watch=231a hourglass_done,hourglass=231b
keyboard=2328 helm_symbol=2388 eject_button,eject_symbol=23cf
fast-forward_button,fast_forward=23e9 fast_reverse_button,rewind=23ea
fast_up_button,arrow_double_up=23eb fast_down_button,arrow_double_down=23ec
next_track_button,black_right__pointing_double_triangle_with_vertical_bar=23ed
last_track_button,black_left__pointing_double_triangle_with_vertical_bar=23ee
play_or_pause_button,black_right__pointing_triangle_with_double_vertical_bar=23ef
alarm_clock=23f0 stopwatch=23f1 timer_clock=23f2 hourglass_not_done,hourglass_flowing_sand=23f3
pause_button,double_vertical_bar=23f8 stop_button,black_square_for_stop=23f9
record_button,black_circle_for_record=23fa circled_m,m=24c2 black_small_square=25aa
white_small_square=25ab play_button,arrow_forward=25b6 reverse_button,arrow_backward=25c0
white_medium_square=25fb black_medium_square=25fc
white_medium-small_square,white_medium_small_square=25fd
black_medium-small_square,black_medium_small_square=25fe sun,sunny=2600 cloud=2601 umbrella=2602
snowman=2603 comet=2604 telephone,phone=260e ballot_box_with_check=2611
umbrella_with_rain_drops=2614 hot_beverage,coffee=2615 shamrock=2618
index_pointing_up,point_up=261d index_pointing_up_light_skin_tone=261d.1f3fb
index_pointing_up_medium-light_skin_tone=261d.1f3fc
index_pointing_up_medium_skin_tone=261d.1f3fd index_pointing_up_medium-dark_skin_tone=261d.1f3fe
index_pointing_up_dark_skin_tone=261d.1f3ff skull_and_crossbones=2620
radioactive,radioactive_sign=2622 biohazard,biohazard_sign=2623 orthodox_cross=2626
star_and_crescent=262a peace_symbol=262e yin_yang=262f wheel_of_dharma=2638
frowning_face,white_frowning_face=2639 smiling_face,relaxed=263a female_sign=2640 male_sign=2642
aries=2648 taurus=2649 gemini=264a cancer=264b leo=264c virgo=264d libra=264e
scorpio,scorpius=264f sagittarius=2650 capricorn=2651 aquarius=2652 pisces=2653 chess_pawn=265f
spade_suit,spades=2660 club_suit,clubs=2663 heart_suit,hearts=2665 diamond_suit,diamonds=2666
hot_springs,hotsprings=2668 recycling_symbol,recycle=267b infinity=267e
wheelchair_symbol,wheelchair=267f hammer_and_pick=2692 anchor=2693 crossed_swords=2694
medical_symbol=2695 balance_scale,scales=2696 alembic=2697 gear=2699 atom_symbol=269b
fleur-de-lis,fleur__de__lis=269c warning=26a0 high_voltage,zap=26a1 white_circle=26aa
black_circle=26ab coffin=26b0 funeral_urn=26b1 soccer_ball,soccer=26bd baseball=26be
snowman_without_snow=26c4 sun_behind_cloud,partly_sunny=26c5
cloud_with_lightning_and_rain,thunder_cloud_and_rain=26c8 ophiuchus=26ce pick=26cf
rescue_worker’s_helmet,helmet_with_white_cross=26d1 chains=26d3 no_entry=26d4 shinto_shrine=26e9
church=26ea mountain=26f0 umbrella_on_ground=26f1 fountain=26f2 flag_in_hole,golf=26f3
ferry=26f4 sailboat,boat=26f5 skier=26f7 ice_skate=26f8
person_bouncing_ball,person_with_ball=26f9 woman_bouncing_ball=26f9.fe0f.200d.2640.fe0f
man_bouncing_ball=26f9.fe0f.200d.2642.fe0f person_bouncing_ball_light_skin_tone=26f9.1f3fb
woman_bouncing_ball_light_skin_tone=26f9.1f3fb.200d.2640.fe0f
man_bouncing_ball_light_skin_tone=26f9.1f3fb.200d.2642.fe0f
person_bouncing_ball_medium-light_skin_tone=26f9.1f3fc
woman_bouncing_ball_medium-light_skin_tone=26f9.1f3fc.200d.2640.fe0f
man_bouncing_ball_medium-light_skin_tone=26f9.1f3fc.200d.2642.fe0f
person_bouncing_ball_medium_skin_tone=26f9.1f3fd
woman_bouncing_ball_medium_skin_tone=26f9.1f3fd.200d.2640.fe0f
man_bouncing_ball_medium_skin_tone=26f9.1f3fd.200d.2642.fe0f
person_bouncing_ball_medium-dark_skin_tone=26f9.1f3fe
woman_bouncing_ball_medium-dark_skin_tone=26f9.1f3fe.200d.2640.fe0f
man_bouncing_ball_medium-dark_skin_tone=26f9.1f3fe.200d.2642.fe0f
person_bouncing_ball_dark_skin_tone=26f9.1f3ff
woman_bouncing_ball_dark_skin_tone=26f9.1f3ff.200d.2640.fe0f
man_bouncing_ball_dark_skin_tone=26f9.1f3ff.200d.2642.fe0f tent=26fa fuel_pump,fuelpump=26fd
scissors=2702 white_heavy_check_mark,white_check_mark=2705 airplane=2708 envelope,email=2709
raised_fist,fist=270a raised_fist_light_skin_tone=270a.1f3fb
raised_fist_medium-light_skin_tone=270a.1f3fc raised_fist_medium_skin_tone=270a.1f3fd
raised_fist_medium-dark_skin_tone=270a.1f3fe raised_fist_dark_skin_tone=270a.1f3ff
raised_hand,hand=270b raised_hand_light_skin_tone=270b.1f3fb
raised_hand_medium-light_skin_tone=270b.1f3fc raised_hand_medium_skin_tone=270b.1f3fd
raised_hand_medium-dark_skin_tone=270b.1f3fe raised_hand_dark_skin_tone=270b.1f3ff
victory_hand,v=270c victory_hand_light_skin_tone=270c.1f3fb
victory_hand_medium-light_skin_tone=270c.1f3fc victory_hand_medium_skin_tone=270c.1f3fd
victory_hand_medium-dark_skin_tone=270c.1f3fe victory_hand_dark_skin_tone=270c.1f3ff
writing_hand=270d writing_hand_light_skin_tone=270d.1f3fb
writing_hand_medium-light_skin_tone=270d.1f3fc writing_hand_medium_skin_tone=270d.1f3fd
writing_hand_medium-dark_skin_tone=270d.1f3fe writing_hand_dark_skin_tone=270d.1f3ff
pencil2=270f black_nib=2712 heavy_check_mark=2714 heavy_multiplication_x=2716 latin_cross=271d
star_of_david=2721 sparkles=2728 eight-spoked_asterisk,eight_spoked_asterisk=2733
eight-pointed_star,eight_pointed_black_star=2734 snowflake=2744 sparkle=2747 cross_mark,x=274c
cross_mark_button,negative_squared_cross_mark=274e question_mark,question=2753
white_question_mark,grey_question=2754 white_exclamation_mark,grey_exclamation=2755
exclamation_mark,exclamation,heavy_exclamation_mark=2757
heavy_heart_exclamation,heavy_heart_exclamation_mark_ornament=2763 red_heart,heart=2764
heavy_plus_sign=2795 heavy_minus_sign=2796 heavy_division_sign=2797 right_arrow,arrow_right=27a1
curly_loop=27b0 double_curly_loop,loop=27bf right_arrow_curving_up,arrow_heading_up=2934
right_arrow_curving_down,arrow_heading_down=2935 left_arrow,arrow_left=2b05
up_arrow,arrow_up=2b06 down_arrow,arrow_down=2b07 black_large_square=2b1b
white_large_square=2b1c white_medium_star,star=2b50 heavy_large_circle,o=2b55 wavy_dash=3030
part_alternation_mark=303d japanese_congratulations_button,congratulations=3297
japanese_secret_button,secret=3299 mahjong_red_dragon,mahjong=1f004 joker,black_joker=1f0cf
a_button_(blood_type),a=1f170 b_button_(blood_type),b=1f171 o_button_(blood_type),o2=1f17e
p_button,parking=1f17f ab_button_(blood_type),ab=1f18e cl_button,cl=1f191 cool_button,cool=1f192
free_button,free=1f193 id_button,id=1f194 new_button,new=1f195 ng_button,ng=1f196
ok_button,ok=1f197 sos_button,sos=1f198 up!_button,up=1f199 vs_button,vs=1f19a
regional_indicator_symbol_letter_a,regional_indicator_a=1f1e6
ascension_island,flag_for_ascension_island=1f1e6.1f1e8 andorra,flag_for_andorra=1f1e6.1f1e9
united_arab_emirates,flag_for_united_arab_emirates=1f1e6.1f1ea
afghanistan,flag_for_afghanistan=1f1e6.1f1eb
antigua_&_barbuda,flag_for_antigua_&_barbuda=1f1e6.1f1ec anguilla,flag_for_anguilla=1f1e6.1f1ee
albania,flag_for_albania=1f1e6.1f1f1 armenia,flag_for_armenia=1f1e6.1f1f2
angola,flag_for_angola=1f1e6.1f1f4 antarctica,flag_for_antarctica=1f1e6.1f1f6
argentina,flag_for_argentina=1f1e6.1f1f7 american_samoa,flag_for_american_samoa=1f1e6.1f1f8
austria,flag_for_austria=1f1e6.1f1f9 australia,flag_for_australia=1f1e6.1f1fa
aruba,flag_for_aruba=1f1e6.1f1fc åland_islands,flag_for_åland_islands=1f1e6.1f1fd
azerbaijan,flag_for_azerbaijan=1f1e6.1f1ff
regional_indicator_symbol_letter_b,regional_indicator_b=1f1e7
bosnia_&_herzegovina,flag_for_bosnia_&_herzegovina=1f1e7.1f1e6
barbados,flag_for_barbados=1f1e7.1f1e7 bangladesh,flag_for_bangladesh=1f1e7.1f1e9
belgium,flag_for_belgium=1f1e7.1f1ea burkina_faso,flag_for_burkina_faso=1f1e7.1f1eb
bulgaria,flag_for_bulgaria=1f1e7.1f1ec bahrain,flag_for_bahrain=1f1e7.1f1ed
burundi,flag_for_burundi=1f1e7.1f1ee benin,flag_for_benin=1f1e7.1f1ef
st._barthélemy,flag_for_st._barthélemy=1f1e7.1f1f1 bermuda,flag_for_bermuda=1f1e7.1f1f2
brunei,flag_for_brunei=1f1e7.1f1f3 bolivia,flag_for_bolivia=1f1e7.1f1f4
caribbean_netherlands,flag_for_caribbean_netherlands=1f1e7.1f1f6
brazil,flag_for_brazil=1f1e7.1f1f7 bahamas,flag_for_bahamas=1f1e7.1f1f8
bhutan,flag_for_bhutan=1f1e7.1f1f9 bouvet_island,flag_for_bouvet_island=1f1e7.1f1fb
botswana,flag_for_botswana=1f1e7.1f1fc belarus,flag_for_belarus=1f1e7.1f1fe
belize,flag_for_belize=1f1e7.1f1ff regional_indicator_symbol_letter_c,regional_indicator_c=1f1e8
canada,flag_for_canada=1f1e8.1f1e6 cocos_(keeling)_islands,flag_for_cocos__islands=1f1e8.1f1e8
congo_-_kinshasa,flag_for_congo____kinshasa=1f1e8.1f1e9
central_african_republic,flag_for_central_african_republic=1f1e8.1f1eb
congo_-_brazzaville,flag_for_congo____brazzaville=1f1e8.1f1ec
switzerland,flag_for_switzerland=1f1e8.1f1ed côte_d’ivoire,flag_for_côte_d’ivoire=1f1e8.1f1ee
cook_islands,flag_for_cook_islands=1f1e8.1f1f0 chile,flag_for_chile=1f1e8.1f1f1
cameroon,flag_for_cameroon=1f1e8.1f1f2 china,flag_for_china=1f1e8.1f1f3
colombia,flag_for_colombia=1f1e8.1f1f4 clipperton_island,flag_for_clipperton_island=1f1e8.1f1f5
costa_rica,flag_for_costa_rica=1f1e8.1f1f7 cuba,flag_for_cuba=1f1e8.1f1fa
cape_verde,flag_for_cape_verde=1f1e8.1f1fb curaçao,flag_for_curaçao=1f1e8.1f1fc
christmas_island,flag_for_christmas_island=1f1e8.1f1fd cyprus,flag_for_cyprus=1f1e8.1f1fe
czechia,flag_for_czech_republic=1f1e8.1f1ff
regional_indicator_symbol_letter_d,regional_indicator_d=1f1e9
germany,flag_for_germany=1f1e9.1f1ea diego_garcia,flag_for_diego_garcia=1f1e9.1f1ec
djibouti,flag_for_djibouti=1f1e9.1f1ef denmark,flag_for_denmark=1f1e9.1f1f0
dominica,flag_for_dominica=1f1e9.1f1f2
dominican_republic,flag_for_dominican_republic=1f1e9.1f1f4 algeria,flag_for_algeria=1f1e9.1f1ff
regional_indicator_symbol_letter_e,regional_indicator_e=1f1ea
ceuta_&_melilla,flag_for_ceuta_&_melilla=1f1ea.1f1e6 ecuador,flag_for_ecuador=1f1ea.1f1e8
estonia,flag_for_estonia=1f1ea.1f1ea egypt,flag_for_egypt=1f1ea.1f1ec
western_sahara,flag_for_western_sahara=1f1ea.1f1ed eritrea,flag_for_eritrea=1f1ea.1f1f7
spain,flag_for_spain=1f1ea.1f1f8 ethiopia,flag_for_ethiopia=1f1ea.1f1f9
european_union,flag_for_european_union=1f1ea.1f1fa
regional_indicator_symbol_letter_f,regional_indicator_f=1f1eb
finland,flag_for_finland=1f1eb.1f1ee fiji,flag_for_fiji=1f1eb.1f1ef
falkland_islands,flag_for_falkland_islands=1f1eb.1f1f0
micronesia,flag_for_micronesia=1f1eb.1f1f2 faroe_islands,flag_for_faroe_islands=1f1eb.1f1f4
france,flag_for_france=1f1eb.1f1f7 regional_indicator_symbol_letter_g,regional_indicator_g=1f1ec
gabon,flag_for_gabon=1f1ec.1f1e6 united_kingdom,flag_for_united_kingdom=1f1ec.1f1e7
grenada,flag_for_grenada=1f1ec.1f1e9 georgia,flag_for_georgia=1f1ec.1f1ea
french_guiana,flag_for_french_guiana=1f1ec.1f1eb guernsey,flag_for_guernsey=1f1ec.1f1ec
ghana,flag_for_ghana=1f1ec.1f1ed gibraltar,flag_for_gibraltar=1f1ec.1f1ee
greenland,flag_for_greenland=1f1ec.1f1f1 gambia,flag_for_gambia=1f1ec.1f1f2
guinea,flag_for_guinea=1f1ec.1f1f3 guadeloupe,flag_for_guadeloupe=1f1ec.1f1f5
equatorial_guinea,flag_for_equatorial_guinea=1f1ec.1f1f6 greece,flag_for_greece=1f1ec.1f1f7
south_georgia_&_south_sandwich_islands=1f1ec.1f1f8
flag_for_south_georgia_&_south_sandwich_islands=1f1ec.1f1f8
guatemala,flag_for_guatemala=1f1ec.1f1f9 guam,flag_for_guam=1f1ec.1f1fa
guinea-bissau,flag_for_guinea__bissau=1f1ec.1f1fc guyana,flag_for_guyana=1f1ec.1f1fe
regional_indicator_symbol_letter_h,regional_indicator_h=1f1ed
hong_kong_sar_china,flag_for_hong_kong=1f1ed.1f1f0
heard_&_mcdonald_islands,flag_for_heard_&_mcdonald_islands=1f1ed.1f1f2
honduras,flag_for_honduras=1f1ed.1f1f3 croatia,flag_for_croatia=1f1ed.1f1f7
haiti,flag_for_haiti=1f1ed.1f1f9 hungary,flag_for_hungary=1f1ed.1f1fa
regional_indicator_symbol_letter_i,regional_indicator_i=1f1ee
canary_islands,flag_for_canary_islands=1f1ee.1f1e8 indonesia,flag_for_indonesia=1f1ee.1f1e9
ireland,flag_for_ireland=1f1ee.1f1ea israel,flag_for_israel=1f1ee.1f1f1
isle_of_man,flag_for_isle_of_man=1f1ee.1f1f2 india,flag_for_india=1f1ee.1f1f3
british_indian_ocean_territory,flag_for_british_indian_ocean_territory=1f1ee.1f1f4
iraq,flag_for_iraq=1f1ee.1f1f6 iran,flag_for_iran=1f1ee.1f1f7
iceland,flag_for_iceland=1f1ee.1f1f8 italy,flag_for_italy=1f1ee.1f1f9
regional_indicator_symbol_letter_j,regional_indicator_j=1f1ef jersey,flag_for_jersey=1f1ef.1f1ea
jamaica,flag_for_jamaica=1f1ef.1f1f2 jordan,flag_for_jordan=1f1ef.1f1f4
flag_for_japan=1f1ef.1f1f5 regional_indicator_symbol_letter_k,regional_indicator_k=1f1f0
kenya,flag_for_kenya=1f1f0.1f1ea kyrgyzstan,flag_for_kyrgyzstan=1f1f0.1f1ec
cambodia,flag_for_cambodia=1f1f0.1f1ed kiribati,flag_for_kiribati=1f1f0.1f1ee
comoros,flag_for_comoros=1f1f0.1f1f2 st._kitts_&_nevis,flag_for_st._kitts_&_nevis=1f1f0.1f1f3
north_korea,flag_for_north_korea=1f1f0.1f1f5 south_korea,flag_for_south_korea=1f1f0.1f1f7
kuwait,flag_for_kuwait=1f1f0.1f1fc cayman_islands,flag_for_cayman_islands=1f1f0.1f1fe
kazakhstan,flag_for_kazakhstan=1f1f0.1f1ff
regional_indicator_symbol_letter_l,regional_indicator_l=1f1f1 laos,flag_for_laos=1f1f1.1f1e6
lebanon,flag_for_lebanon=1f1f1.1f1e7 st._lucia,flag_for_st._lucia=1f1f1.1f1e8
liechtenstein,flag_for_liechtenstein=1f1f1.1f1ee sri_lanka,flag_for_sri_lanka=1f1f1.1f1f0
liberia,flag_for_liberia=1f1f1.1f1f7 lesotho,flag_for_lesotho=1f1f1.1f1f8
lithuania,flag_for_lithuania=1f1f1.1f1f9 luxembourg,flag_for_luxembourg=1f1f1.1f1fa
latvia,flag_for_latvia=1f1f1.1f1fb libya,flag_for_libya=1f1f1.1f1fe
regional_indicator_symbol_letter_m,regional_indicator_m=1f1f2
morocco,flag_for_morocco=1f1f2.1f1e6 monaco,flag_for_monaco=1f1f2.1f1e8
moldova,flag_for_moldova=1f1f2.1f1e9 montenegro,flag_for_montenegro=1f1f2.1f1ea
st._martin,flag_for_st._martin=1f1f2.1f1eb madagascar,flag_for_madagascar=1f1f2.1f1ec
marshall_islands,flag_for_marshall_islands=1f1f2.1f1ed macedonia,flag_for_macedonia=1f1f2.1f1f0
mali,flag_for_mali=1f1f2.1f1f1 myanmar_(burma),flag_for_myanmar=1f1f2.1f1f2
mongolia,flag_for_mongolia=1f1f2.1f1f3 macau_sar_china,flag_for_macau=1f1f2.1f1f4
northern_mariana_islands,flag_for_northern_mariana_islands=1f1f2.1f1f5
martinique,flag_for_martinique=1f1f2.1f1f6 mauritania,flag_for_mauritania=1f1f2.1f1f7
montserrat,flag_for_montserrat=1f1f2.1f1f8 malta,flag_for_malta=1f1f2.1f1f9
mauritius,flag_for_mauritius=1f1f2.1f1fa maldives,flag_for_maldives=1f1f2.1f1fb
malawi,flag_for_malawi=1f1f2.1f1fc mexico,flag_for_mexico=1f1f2.1f1fd
malaysia,flag_for_malaysia=1f1f2.1f1fe mozambique,flag_for_mozambique=1f1f2.1f1ff
regional_indicator_symbol_letter_n,regional_indicator_n=1f1f3
namibia,flag_for_namibia=1f1f3.1f1e6 new_caledonia,flag_for_new_caledonia=1f1f3.1f1e8
niger,flag_for_niger=1f1f3.1f1ea norfolk_island,flag_for_norfolk_island=1f1f3.1f1eb
nigeria,flag_for_nigeria=1f1f3.1f1ec nicaragua,flag_for_nicaragua=1f1f3.1f1ee
netherlands,flag_for_netherlands=1f1f3.1f1f1 norway,flag_for_norway=1f1f3.1f1f4
nepal,flag_for_nepal=1f1f3.1f1f5 nauru,flag_for_nauru=1f1f3.1f1f7 niue,flag_for_niue=1f1f3.1f1fa
new_zealand,flag_for_new_zealand=1f1f3.1f1ff
regional_indicator_symbol_letter_o,regional_indicator_o=1f1f4 oman,flag_for_oman=1f1f4.1f1f2
regional_indicator_symbol_letter_p,regional_indicator_p=1f1f5 panama,flag_for_panama=1f1f5.1f1e6
peru,flag_for_peru=1f1f5.1f1ea french_polynesia,flag_for_french_polynesia=1f1f5.1f1eb
papua_new_guinea,flag_for_papua_new_guinea=1f1f5.1f1ec
philippines,flag_for_philippines=1f1f5.1f1ed pakistan,flag_for_pakistan=1f1f5.1f1f0
poland,flag_for_poland=1f1f5.1f1f1
st._pierre_&_miquelon,flag_for_st._pierre_&_miquelon=1f1f5.1f1f2
pitcairn_islands,flag_for_pitcairn_islands=1f1f5.1f1f3
puerto_rico,flag_for_puerto_rico=1f1f5.1f1f7
palestinian_territories,flag_for_palestinian_territories=1f1f5.1f1f8
portugal,flag_for_portugal=1f1f5.1f1f9 palau,flag_for_palau=1f1f5.1f1fc
paraguay,flag_for_paraguay=1f1f5.1f1fe
regional_indicator_symbol_letter_q,regional_indicator_q=1f1f6 qatar,flag_for_qatar=1f1f6.1f1e6
regional_indicator_symbol_letter_r,regional_indicator_r=1f1f7
réunion,flag_for_réunion=1f1f7.1f1ea romania,flag_for_romania=1f1f7.1f1f4
serbia,flag_for_serbia=1f1f7.1f1f8 russia,flag_for_russia=1f1f7.1f1fa
rwanda,flag_for_rwanda=1f1f7.1f1fc regional_indicator_symbol_letter_s,regional_indicator_s=1f1f8
saudi_arabia,flag_for_saudi_arabia=1f1f8.1f1e6
solomon_islands,flag_for_solomon_islands=1f1f8.1f1e7 seychelles,flag_for_seychelles=1f1f8.1f1e8
sudan,flag_for_sudan=1f1f8.1f1e9 sweden,flag_for_sweden=1f1f8.1f1ea
singapore,flag_for_singapore=1f1f8.1f1ec st._helena,flag_for_st._helena=1f1f8.1f1ed
slovenia,flag_for_slovenia=1f1f8.1f1ee
svalbard_&_jan_mayen,flag_for_svalbard_&_jan_mayen=1f1f8.1f1ef
slovakia,flag_for_slovakia=1f1f8.1f1f0 sierra_leone,flag_for_sierra_leone=1f1f8.1f1f1
san_marino,flag_for_san_marino=1f1f8.1f1f2 senegal,flag_for_senegal=1f1f8.1f1f3
somalia,flag_for_somalia=1f1f8.1f1f4 suriname,flag_for_suriname=1f1f8.1f1f7
south_sudan,flag_for_south_sudan=1f1f8.1f1f8
são_tomé_&_príncipe,flag_for_são_tomé_&_príncipe=1f1f8.1f1f9
el_salvador,flag_for_el_salvador=1f1f8.1f1fb sint_maarten,flag_for_sint_maarten=1f1f8.1f1fd
syria,flag_for_syria=1f1f8.1f1fe swaziland,flag_for_swaziland=1f1f8.1f1ff
regional_indicator_symbol_letter_t,regional_indicator_t=1f1f9
tristan_da_cunha,flag_for_tristan_da_cunha=1f1f9.1f1e6
turks_&_caicos_islands,flag_for_turks_&_caicos_islands=1f1f9.1f1e8
chad,flag_for_chad=1f1f9.1f1e9
french_southern_territories,flag_for_french_southern_territories=1f1f9.1f1eb
togo,flag_for_togo=1f1f9.1f1ec thailand,flag_for_thailand=1f1f9.1f1ed
tajikistan,flag_for_tajikistan=1f1f9.1f1ef tokelau,flag_for_tokelau=1f1f9.1f1f0
timor-leste,flag_for_timor__leste=1f1f9.1f1f1 turkmenistan,flag_for_turkmenistan=1f1f9.1f1f2
tunisia,flag_for_tunisia=1f1f9.1f1f3 tonga,flag_for_tonga=1f1f9.1f1f4
flag_for_turkey=1f1f9.1f1f7 trinidad_&_tobago,flag_for_trinidad_&_tobago=1f1f9.1f1f9
tuvalu,flag_for_tuvalu=1f1f9.1f1fb taiwan,flag_for_taiwan=1f1f9.1f1fc
tanzania,flag_for_tanzania=1f1f9.1f1ff
regional_indicator_symbol_letter_u,regional_indicator_u=1f1fa
ukraine,flag_for_ukraine=1f1fa.1f1e6 uganda,flag_for_uganda=1f1fa.1f1ec
u.s._outlying_islands,flag_for_u.s._outlying_islands=1f1fa.1f1f2 united_nations=1f1fa.1f1f3
united_states,flag_for_united_states=1f1fa.1f1f8 uruguay,flag_for_uruguay=1f1fa.1f1fe
uzbekistan,flag_for_uzbekistan=1f1fa.1f1ff
regional_indicator_symbol_letter_v,regional_indicator_v=1f1fb
vatican_city,flag_for_vatican_city=1f1fb.1f1e6
st._vincent_&_grenadines,flag_for_st._vincent_&_grenadines=1f1fb.1f1e8
venezuela,flag_for_venezuela=1f1fb.1f1ea
british_virgin_islands,flag_for_british_virgin_islands=1f1fb.1f1ec
u.s._virgin_islands,flag_for_u.s._virgin_islands=1f1fb.1f1ee
vietnam,flag_for_vietnam=1f1fb.1f1f3 vanuatu,flag_for_vanuatu=1f1fb.1f1fa
regional_indicator_symbol_letter_w,regional_indicator_w=1f1fc
wallis_&_futuna,flag_for_wallis_&_futuna=1f1fc.1f1eb samoa,flag_for_samoa=1f1fc.1f1f8
regional_indicator_symbol_letter_x,regional_indicator_x=1f1fd kosovo,flag_for_kosovo=1f1fd.1f1f0
regional_indicator_symbol_letter_y,regional_indicator_y=1f1fe yemen,flag_for_yemen=1f1fe.1f1ea
mayotte,flag_for_mayotte=1f1fe.1f1f9
regional_indicator_symbol_letter_z,regional_indicator_z=1f1ff
south_africa,flag_for_south_africa=1f1ff.1f1e6 zambia,flag_for_zambia=1f1ff.1f1f2
zimbabwe,flag_for_zimbabwe=1f1ff.1f1fc japanese_here_button,koko=1f201
japanese_service_charge_button,sa=1f202 japanese_free_of_charge_button,u7121=1f21a
japanese_reserved_button,u6307=1f22f japanese_prohibited_button,u7981=1f232
japanese_vacancy_button,u7a7a=1f233 japanese_passing_grade_button,u5408=1f234
japanese_no_vacancy_button,u6e80=1f235 japanese_not_free_of_charge_button,u6709=1f236
japanese_monthly_amount_button,u6708=1f237 japanese_application_button,u7533=1f238
japanese_discount_button,u5272=1f239 japanese_open_for_business_button,u55b6=1f23a
japanese_bargain_button,ideograph_advantage=1f250 japanese_acceptable_button,accept=1f251
cyclone=1f300 foggy=1f301 closed_umbrella=1f302 night_with_stars=1f303
sunrise_over_mountains=1f304 sunrise=1f305 cityscape_at_dusk,city_sunset=1f306
sunset,city_sunrise=1f307 rainbow=1f308 bridge_at_night=1f309 water_wave,ocean=1f30a
volcano=1f30b milky_way=1f30c globe_showing_europe-africa,earth_africa=1f30d
globe_showing_americas,earth_americas=1f30e globe_showing_asia-australia,earth_asia=1f30f
globe_with_meridians=1f310 new_moon=1f311 waxing_crescent_moon=1f312 first_quarter_moon=1f313
waxing_gibbous_moon,moon=1f314 full_moon=1f315 waning_gibbous_moon=1f316 last_quarter_moon=1f317
waning_crescent_moon=1f318 crescent_moon=1f319 new_moon_face,new_moon_with_face=1f31a
first_quarter_moon_face,first_quarter_moon_with_face=1f31b
last_quarter_moon_face,last_quarter_moon_with_face=1f31c
full_moon_face,full_moon_with_face=1f31d sun_with_face=1f31e glowing_star,star2=1f31f
shooting_star,stars=1f320 thermometer=1f321
sun_behind_small_cloud,white_sun_with_small_cloud=1f324
sun_behind_large_cloud,white_sun_behind_cloud=1f325
sun_behind_rain_cloud,white_sun_behind_cloud_with_rain=1f326 cloud_with_rain=1f327
cloud_with_snow=1f328 cloud_with_lightning=1f329 tornado,cloud_with_tornado=1f32a fog=1f32b
wind_face,wind_blowing_face=1f32c hot_dog=1f32d taco=1f32e burrito=1f32f chestnut=1f330
seedling=1f331 evergreen_tree=1f332 deciduous_tree=1f333 palm_tree=1f334 cactus=1f335
hot_pepper=1f336 tulip=1f337 cherry_blossom=1f338 rose=1f339 hibiscus=1f33a sunflower=1f33b
blossom=1f33c ear_of_corn,corn=1f33d sheaf_of_rice,ear_of_rice=1f33e herb=1f33f
four_leaf_clover=1f340 maple_leaf=1f341 fallen_leaf=1f342 leaf_fluttering_in_wind,leaves=1f343
mushroom=1f344 tomato=1f345 eggplant=1f346 grapes=1f347 melon=1f348 watermelon=1f349
tangerine=1f34a lemon=1f34b banana=1f34c pineapple=1f34d red_apple,apple=1f34e green_apple=1f34f
pear=1f350 peach=1f351 cherries=1f352 strawberry=1f353 hamburger=1f354 pizza=1f355
meat_on_bone=1f356 poultry_leg=1f357 rice_cracker=1f358 rice_ball=1f359 cooked_rice,rice=1f35a
curry_rice,curry=1f35b steaming_bowl,ramen=1f35c spaghetti=1f35d bread=1f35e
french_fries,fries=1f35f roasted_sweet_potato,sweet_potato=1f360 dango=1f361 oden=1f362
sushi=1f363 fried_shrimp=1f364 fish_cake_with_swirl,fish_cake=1f365
soft_ice_cream,icecream=1f366 shaved_ice=1f367 ice_cream=1f368 doughnut=1f369 cookie=1f36a
chocolate_bar=1f36b candy=1f36c lollipop=1f36d custard=1f36e honey_pot=1f36f
shortcake,cake=1f370 bento_box,bento=1f371 pot_of_food,stew=1f372 cooking,egg=1f373
fork_and_knife=1f374 teacup_without_handle,tea=1f375 sake=1f376 wine_glass=1f377
cocktail_glass,cocktail=1f378 tropical_drink=1f379 beer_mug,beer=1f37a
clinking_beer_mugs,beers=1f37b baby_bottle=1f37c fork_and_knife_with_plate=1f37d
bottle_with_popping_cork=1f37e popcorn=1f37f ribbon=1f380 wrapped_gift,gift=1f381
birthday_cake,birthday=1f382 jack-o-lantern,jack_o_lantern=1f383 christmas_tree=1f384
santa_claus,santa=1f385 santa_claus_light_skin_tone=1f385.1f3fb
santa_claus_medium-light_skin_tone=1f385.1f3fc santa_claus_medium_skin_tone=1f385.1f3fd
santa_claus_medium-dark_skin_tone=1f385.1f3fe santa_claus_dark_skin_tone=1f385.1f3ff
fireworks=1f386 sparkler=1f387 balloon=1f388 party_popper,tada=1f389 confetti_ball=1f38a
tanabata_tree=1f38b crossed_flags=1f38c pine_decoration,bamboo=1f38d japanese_dolls,dolls=1f38e
carp_streamer,flags=1f38f wind_chime=1f390 moon_viewing_ceremony,rice_scene=1f391
school_backpack,school_satchel=1f392 graduation_cap,mortar_board=1f393 military_medal=1f396
reminder_ribbon=1f397 studio_microphone=1f399 level_slider=1f39a control_knobs=1f39b
film_frames=1f39e admission_tickets=1f39f carousel_horse=1f3a0 ferris_wheel=1f3a1
roller_coaster=1f3a2 fishing_pole,fishing_pole_and_fish=1f3a3 microphone=1f3a4
movie_camera=1f3a5 cinema=1f3a6 headphone,headphones=1f3a7 artist_palette,art=1f3a8
top_hat,tophat=1f3a9 circus_tent=1f3aa ticket=1f3ab clapper_board,clapper=1f3ac
performing_arts=1f3ad video_game=1f3ae direct_hit,dart=1f3af slot_machine=1f3b0
pool_8_ball,8ball=1f3b1 game_die=1f3b2 bowling=1f3b3 flower_playing_cards=1f3b4
musical_note=1f3b5 musical_notes,notes=1f3b6 saxophone=1f3b7 guitar=1f3b8 musical_keyboard=1f3b9
trumpet=1f3ba violin=1f3bb musical_score=1f3bc running_shirt,running_shirt_with_sash=1f3bd
tennis=1f3be skis,ski=1f3bf basketball=1f3c0 chequered_flag,checkered_flag=1f3c1
snowboarder=1f3c2 snowboarder_light_skin_tone=1f3c2.1f3fb
snowboarder_medium-light_skin_tone=1f3c2.1f3fc snowboarder_medium_skin_tone=1f3c2.1f3fd
snowboarder_medium-dark_skin_tone=1f3c2.1f3fe snowboarder_dark_skin_tone=1f3c2.1f3ff
person_running,runner,running=1f3c3 woman_running=1f3c3.200d.2640.fe0f
man_running=1f3c3.200d.2642.fe0f person_running_light_skin_tone=1f3c3.1f3fb
woman_running_light_skin_tone=1f3c3.1f3fb.200d.2640.fe0f
man_running_light_skin_tone=1f3c3.1f3fb.200d.2642.fe0f
person_running_medium-light_skin_tone=1f3c3.1f3fc
woman_running_medium-light_skin_tone=1f3c3.1f3fc.200d.2640.fe0f
man_running_medium-light_skin_tone=1f3c3.1f3fc.200d.2642.fe0f
person_running_medium_skin_tone=1f3c3.1f3fd
woman_running_medium_skin_tone=1f3c3.1f3fd.200d.2640.fe0f
man_running_medium_skin_tone=1f3c3.1f3fd.200d.2642.fe0f
person_running_medium-dark_skin_tone=1f3c3.1f3fe
woman_running_medium-dark_skin_tone=1f3c3.1f3fe.200d.2640.fe0f
man_running_medium-dark_skin_tone=1f3c3.1f3fe.200d.2642.fe0f
person_running_dark_skin_tone=1f3c3.1f3ff
woman_running_dark_skin_tone=1f3c3.1f3ff.200d.2640.fe0f
man_running_dark_skin_tone=1f3c3.1f3ff.200d.2642.fe0f person_surfing,surfer=1f3c4
woman_surfing=1f3c4.200d.2640.fe0f man_surfing=1f3c4.200d.2642.fe0f
person_surfing_light_skin_tone=1f3c4.1f3fb
woman_surfing_light_skin_tone=1f3c4.1f3fb.200d.2640.fe0f
man_surfing_light_skin_tone=1f3c4.1f3fb.200d.2642.fe0f
person_surfing_medium-light_skin_tone=1f3c4.1f3fc
woman_surfing_medium-light_skin_tone=1f3c4.1f3fc.200d.2640.fe0f
man_surfing_medium-light_skin_tone=1f3c4.1f3fc.200d.2642.fe0f
person_surfing_medium_skin_tone=1f3c4.1f3fd
woman_surfing_medium_skin_tone=1f3c4.1f3fd.200d.2640.fe0f
man_surfing_medium_skin_tone=1f3c4.1f3fd.200d.2642.fe0f
person_surfing_medium-dark_skin_tone=1f3c4.1f3fe
woman_surfing_medium-dark_skin_tone=1f3c4.1f3fe.200d.2640.fe0f
man_surfing_medium-dark_skin_tone=1f3c4.1f3fe.200d.2642.fe0f
person_surfing_dark_skin_tone=1f3c4.1f3ff
woman_surfing_dark_skin_tone=1f3c4.1f3ff.200d.2640.fe0f
man_surfing_dark_skin_tone=1f3c4.1f3ff.200d.2642.fe0f sports_medal=1f3c5 trophy=1f3c6
horse_racing=1f3c7 horse_racing_light_skin_tone=1f3c7.1f3fb
horse_racing_medium-light_skin_tone=1f3c7.1f3fc horse_racing_medium_skin_tone=1f3c7.1f3fd
horse_racing_medium-dark_skin_tone=1f3c7.1f3fe horse_racing_dark_skin_tone=1f3c7.1f3ff
american_football,football=1f3c8 rugby_football=1f3c9 person_swimming,swimmer=1f3ca
woman_swimming=1f3ca.200d.2640.fe0f man_swimming=1f3ca.200d.2642.fe0f
person_swimming_light_skin_tone=1f3ca.1f3fb
woman_swimming_light_skin_tone=1f3ca.1f3fb.200d.2640.fe0f
man_swimming_light_skin_tone=1f3ca.1f3fb.200d.2642.fe0f
person_swimming_medium-light_skin_tone=1f3ca.1f3fc
woman_swimming_medium-light_skin_tone=1f3ca.1f3fc.200d.2640.fe0f
man_swimming_medium-light_skin_tone=1f3ca.1f3fc.200d.2642.fe0f
person_swimming_medium_skin_tone=1f3ca.1f3fd
woman_swimming_medium_skin_tone=1f3ca.1f3fd.200d.2640.fe0f
man_swimming_medium_skin_tone=1f3ca.1f3fd.200d.2642.fe0f
person_swimming_medium-dark_skin_tone=1f3ca.1f3fe
woman_swimming_medium-dark_skin_tone=1f3ca.1f3fe.200d.2640.fe0f
man_swimming_medium-dark_skin_tone=1f3ca.1f3fe.200d.2642.fe0f
person_swimming_dark_skin_tone=1f3ca.1f3ff
woman_swimming_dark_skin_tone=1f3ca.1f3ff.200d.2640.fe0f
man_swimming_dark_skin_tone=1f3ca.1f3ff.200d.2642.fe0f
person_lifting_weights,weight_lifter=1f3cb woman_lifting_weights=1f3cb.fe0f.200d.2640.fe0f
man_lifting_weights=1f3cb.fe0f.200d.2642.fe0f person_lifting_weights_light_skin_tone=1f3cb.1f3fb
woman_lifting_weights_light_skin_tone=1f3cb.1f3fb.200d.2640.fe0f
man_lifting_weights_light_skin_tone=1f3cb.1f3fb.200d.2642.fe0f
person_lifting_weights_medium-light_skin_tone=1f3cb.1f3fc
woman_lifting_weights_medium-light_skin_tone=1f3cb.1f3fc.200d.2640.fe0f
man_lifting_weights_medium-light_skin_tone=1f3cb.1f3fc.200d.2642.fe0f
person_lifting_weights_medium_skin_tone=1f3cb.1f3fd
woman_lifting_weights_medium_skin_tone=1f3cb.1f3fd.200d.2640.fe0f
man_lifting_weights_medium_skin_tone=1f3cb.1f3fd.200d.2642.fe0f
person_lifting_weights_medium-dark_skin_tone=1f3cb.1f3fe
woman_lifting_weights_medium-dark_skin_tone=1f3cb.1f3fe.200d.2640.fe0f
man_lifting_weights_medium-dark_skin_tone=1f3cb.1f3fe.200d.2642.fe0f
person_lifting_weights_dark_skin_tone=1f3cb.1f3ff
woman_lifting_weights_dark_skin_tone=1f3cb.1f3ff.200d.2640.fe0f
man_lifting_weights_dark_skin_tone=1f3cb.1f3ff.200d.2642.fe0f person_golfing,golfer=1f3cc
woman_golfing=1f3cc.fe0f.200d.2640.fe0f man_golfing=1f3cc.fe0f.200d.2642.fe0f
person_golfing_light_skin_tone=1f3cc.1f3fb
woman_golfing_light_skin_tone=1f3cc.1f3fb.200d.2640.fe0f
man_golfing_light_skin_tone=1f3cc.1f3fb.200d.2642.fe0f
person_golfing_medium-light_skin_tone=1f3cc.1f3fc
woman_golfing_medium-light_skin_tone=1f3cc.1f3fc.200d.2640.fe0f
man_golfing_medium-light_skin_tone=1f3cc.1f3fc.200d.2642.fe0f
person_golfing_medium_skin_tone=1f3cc.1f3fd
woman_golfing_medium_skin_tone=1f3cc.1f3fd.200d.2640.fe0f
man_golfing_medium_skin_tone=1f3cc.1f3fd.200d.2642.fe0f
person_golfing_medium-dark_skin_tone=1f3cc.1f3fe
woman_golfing_medium-dark_skin_tone=1f3cc.1f3fe.200d.2640.fe0f
man_golfing_medium-dark_skin_tone=1f3cc.1f3fe.200d.2642.fe0f
person_golfing_dark_skin_tone=1f3cc.1f3ff
woman_golfing_dark_skin_tone=1f3cc.1f3ff.200d.2640.fe0f
man_golfing_dark_skin_tone=1f3cc.1f3ff.200d.2642.fe0f motorcycle,racing_motorcycle=1f3cd
racing_car=1f3ce cricket_game,cricket_bat_and_ball=1f3cf volleyball=1f3d0
field_hockey,field_hockey_stick_and_ball=1f3d1 ice_hockey,ice_hockey_stick_and_puck=1f3d2
ping_pong,table_tennis_paddle_and_ball=1f3d3 snow-capped_mountain,snow_capped_mountain=1f3d4
camping=1f3d5 beach_with_umbrella=1f3d6 building_construction=1f3d7 houses,house_buildings=1f3d8
cityscape=1f3d9 derelict_house,derelict_house_building=1f3da classical_building=1f3db
desert=1f3dc desert_island=1f3dd national_park=1f3de stadium=1f3df house=1f3e0
house_with_garden=1f3e1 office_building,office=1f3e2 japanese_post_office,post_office=1f3e3
european_post_office=1f3e4 hospital=1f3e5 bank=1f3e6 atm_sign,atm=1f3e7 hotel=1f3e8
love_hotel=1f3e9 convenience_store=1f3ea school=1f3eb department_store=1f3ec factory=1f3ed
red_paper_lantern,izakaya_lantern,lantern=1f3ee japanese_castle=1f3ef
castle,european_castle=1f3f0 white_flag,waving_white_flag=1f3f3
rainbow_flag=1f3f3.fe0f.200d.1f308 black_flag,waving_black_flag=1f3f4
pirate_flag=1f3f4.200d.2620.fe0f england=1f3f4.e0067.e0062.e0065.e006e.e0067.e007f
scotland=1f3f4.e0067.e0062.e0073.e0063.e0074.e007f
wales=1f3f4.e0067.e0062.e0077.e006c.e0073.e007f rosette=1f3f5 label=1f3f7
badminton,badminton_racquet_and_shuttlecock=1f3f8 bow_and_arrow=1f3f9 amphora=1f3fa
light_skin_tone,emoji_modifier_fitzpatrick_type__1__2=1f3fb
medium_light_skin_tone,emoji_modifier_fitzpatrick_type__3=1f3fc
medium_skin_tone,emoji_modifier_fitzpatrick_type__4=1f3fd
medium_dark_skin_tone,emoji_modifier_fitzpatrick_type__5=1f3fe
dark_skin_tone,emoji_modifier_fitzpatrick_type__6=1f3ff rat=1f400 mouse2=1f401 ox=1f402
water_buffalo=1f403 cow2=1f404 tiger2=1f405 leopard=1f406 rabbit2=1f407 cat2=1f408 dragon=1f409
crocodile=1f40a whale2=1f40b snail=1f40c snake=1f40d racehorse=1f40e ram=1f40f goat=1f410
ewe,sheep=1f411 monkey=1f412 rooster=1f413 chicken=1f414 dog2=1f415 service_dog=1f415.200d.1f9ba
pig2=1f416 boar=1f417 elephant=1f418 octopus=1f419 spiral_shell,shell=1f41a bug=1f41b ant=1f41c
honeybee,bee=1f41d lady_beetle,beetle=1f41e fish=1f41f tropical_fish=1f420 blowfish=1f421
turtle=1f422 hatching_chick=1f423 baby_chick=1f424 front-facing_baby_chick,hatched_chick=1f425
bird=1f426 penguin=1f427 koala=1f428 poodle=1f429 dromedary_camel=1f42a
camel,two-hump_camel=1f42b dolphin,flipper=1f42c mouse,mouse_face=1f42d cow,cow_face=1f42e
tiger,tiger_face=1f42f rabbit,rabbit_face=1f430 cat,cat_face=1f431 dragon_face=1f432
spouting_whale,whale=1f433 horse,horse_face=1f434 monkey_face=1f435 dog,dog_face=1f436
pig,pig_face=1f437 frog_face,frog=1f438 hamster_face,hamster=1f439 wolf_face,wolf=1f43a
bear_face,bear=1f43b panda_face=1f43c pig_nose=1f43d paw_prints,feet=1f43e chipmunk=1f43f
eyes=1f440 eye=1f441 eye_in_speech_bubble=1f441.fe0f.200d.1f5e8.fe0f ear=1f442
ear_light_skin_tone=1f442.1f3fb ear_medium-light_skin_tone=1f442.1f3fc
ear_medium_skin_tone=1f442.1f3fd ear_medium-dark_skin_tone=1f442.1f3fe
ear_dark_skin_tone=1f442.1f3ff nose=1f443 nose_light_skin_tone=1f443.1f3fb
nose_medium-light_skin_tone=1f443.1f3fc nose_medium_skin_tone=1f443.1f3fd
nose_medium-dark_skin_tone=1f443.1f3fe nose_dark_skin_tone=1f443.1f3ff mouth,lips=1f444
tongue=1f445 backhand_index_pointing_up,point_up_2=1f446
backhand_index_pointing_up_light_skin_tone=1f446.1f3fb
backhand_index_pointing_up_medium-light_skin_tone=1f446.1f3fc
backhand_index_pointing_up_medium_skin_tone=1f446.1f3fd
backhand_index_pointing_up_medium-dark_skin_tone=1f446.1f3fe
backhand_index_pointing_up_dark_skin_tone=1f446.1f3ff
backhand_index_pointing_down,point_down=1f447
backhand_index_pointing_down_light_skin_tone=1f447.1f3fb
backhand_index_pointing_down_medium-light_skin_tone=1f447.1f3fc
backhand_index_pointing_down_medium_skin_tone=1f447.1f3fd
backhand_index_pointing_down_medium-dark_skin_tone=1f447.1f3fe
backhand_index_pointing_down_dark_skin_tone=1f447.1f3ff
backhand_index_pointing_left,point_left=1f448
backhand_index_pointing_left_light_skin_tone=1f448.1f3fb
backhand_index_pointing_left_medium-light_skin_tone=1f448.1f3fc
backhand_index_pointing_left_medium_skin_tone=1f448.1f3fd
backhand_index_pointing_left_medium-dark_skin_tone=1f448.1f3fe
backhand_index_pointing_left_dark_skin_tone=1f448.1f3ff
backhand_index_pointing_right,point_right=1f449
backhand_index_pointing_right_light_skin_tone=1f449.1f3fb
backhand_index_pointing_right_medium-light_skin_tone=1f449.1f3fc
backhand_index_pointing_right_medium_skin_tone=1f449.1f3fd
backhand_index_pointing_right_medium-dark_skin_tone=1f449.1f3fe
backhand_index_pointing_right_dark_skin_tone=1f449.1f3ff oncoming_fist,facepunch,punch=1f44a
oncoming_fist_light_skin_tone=1f44a.1f3fb oncoming_fist_medium-light_skin_tone=1f44a.1f3fc
oncoming_fist_medium_skin_tone=1f44a.1f3fd oncoming_fist_medium-dark_skin_tone=1f44a.1f3fe
oncoming_fist_dark_skin_tone=1f44a.1f3ff waving_hand,wave=1f44b
waving_hand_light_skin_tone=1f44b.1f3fb waving_hand_medium-light_skin_tone=1f44b.1f3fc
waving_hand_medium_skin_tone=1f44b.1f3fd waving_hand_medium-dark_skin_tone=1f44b.1f3fe
waving_hand_dark_skin_tone=1f44b.1f3ff ok_hand=1f44c ok_hand_light_skin_tone=1f44c.1f3fb
ok_hand_medium-light_skin_tone=1f44c.1f3fc ok_hand_medium_skin_tone=1f44c.1f3fd
ok_hand_medium-dark_skin_tone=1f44c.1f3fe ok_hand_dark_skin_tone=1f44c.1f3ff
thumbs_up,+1,thumbsup=1f44d thumbs_up_light_skin_tone=1f44d.1f3fb
thumbs_up_medium-light_skin_tone=1f44d.1f3fc thumbs_up_medium_skin_tone=1f44d.1f3fd
thumbs_up_medium-dark_skin_tone=1f44d.1f3fe thumbs_up_dark_skin_tone=1f44d.1f3ff
thumbs_down,__1,-1,thumbsdown=1f44e thumbs_down_light_skin_tone=1f44e.1f3fb
thumbs_down_medium-light_skin_tone=1f44e.1f3fc thumbs_down_medium_skin_tone=1f44e.1f3fd
thumbs_down_medium-dark_skin_tone=1f44e.1f3fe thumbs_down_dark_skin_tone=1f44e.1f3ff
clapping_hands,clap=1f44f clapping_hands_light_skin_tone=1f44f.1f3fb
clapping_hands_medium-light_skin_tone=1f44f.1f3fc clapping_hands_medium_skin_tone=1f44f.1f3fd
clapping_hands_medium-dark_skin_tone=1f44f.1f3fe clapping_hands_dark_skin_tone=1f44f.1f3ff
open_hands=1f450 open_hands_light_skin_tone=1f450.1f3fb
open_hands_medium-light_skin_tone=1f450.1f3fc open_hands_medium_skin_tone=1f450.1f3fd
open_hands_medium-dark_skin_tone=1f450.1f3fe open_hands_dark_skin_tone=1f450.1f3ff crown=1f451
woman’s_hat,womans_hat=1f452 glasses,eyeglasses=1f453 necktie=1f454 t-shirt,shirt,tshirt=1f455
jeans=1f456 dress=1f457 kimono=1f458 bikini=1f459 woman’s_clothes,womans_clothes=1f45a
purse=1f45b handbag=1f45c clutch_bag,pouch=1f45d man’s_shoe,mans_shoe,shoe=1f45e
running_shoe,athletic_shoe=1f45f high-heeled_shoe,high_heel=1f460 woman’s_sandal,sandal=1f461
woman’s_boot,boot=1f462 footprints=1f463 bust_in_silhouette=1f464 busts_in_silhouette=1f465
boy=1f466 boy_light_skin_tone=1f466.1f3fb boy_medium-light_skin_tone=1f466.1f3fc
boy_medium_skin_tone=1f466.1f3fd boy_medium-dark_skin_tone=1f466.1f3fe
boy_dark_skin_tone=1f466.1f3ff girl=1f467 girl_light_skin_tone=1f467.1f3fb
girl_medium-light_skin_tone=1f467.1f3fc girl_medium_skin_tone=1f467.1f3fd
girl_medium-dark_skin_tone=1f467.1f3fe girl_dark_skin_tone=1f467.1f3ff man=1f468
man_health_worker=1f468.200d.2695.fe0f man_judge=1f468.200d.2696.fe0f
man_pilot=1f468.200d.2708.fe0f couple_with_heart_man_man=1f468.200d.2764.fe0f.200d.1f468
kiss_man_man=1f468.200d.2764.fe0f.200d.1f48b.200d.1f468 man_farmer=1f468.200d.1f33e
man_cook=1f468.200d.1f373 man_student=1f468.200d.1f393 man_singer=1f468.200d.1f3a4
man_artist=1f468.200d.1f3a8 man_teacher=1f468.200d.1f3eb man_factory_worker=1f468.200d.1f3ed
family_man_boy=1f468.200d.1f466 family_man_boy_boy=1f468.200d.1f466.200d.1f466
family_man_girl=1f468.200d.1f467 family_man_girl_boy=1f468.200d.1f467.200d.1f466
family_man_girl_girl=1f468.200d.1f467.200d.1f467 family_man_man_boy=1f468.200d.1f468.200d.1f466
family_man_man_boy_boy=1f468.200d.1f468.200d.1f466.200d.1f466
family_man_man_girl=1f468.200d.1f468.200d.1f467
family_man_man_girl_boy=1f468.200d.1f468.200d.1f467.200d.1f466
family_man_man_girl_girl=1f468.200d.1f468.200d.1f467.200d.1f467
family_man_woman_boy=1f468.200d.1f469.200d.1f466
family_man_woman_boy_boy=1f468.200d.1f469.200d.1f466.200d.1f466
family_man_woman_girl=1f468.200d.1f469.200d.1f467
family_man_woman_girl_boy=1f468.200d.1f469.200d.1f467.200d.1f466
family_man_woman_girl_girl=1f468.200d.1f469.200d.1f467.200d.1f467
man_technologist=1f468.200d.1f4bb man_office_worker=1f468.200d.1f4bc
man_mechanic=1f468.200d.1f527 man_scientist=1f468.200d.1f52c man_astronaut=1f468.200d.1f680
man_firefighter=1f468.200d.1f692 man_with_probing_cane=1f468.200d.1f9af
red-haired_man=1f468.200d.1f9b0 curly-haired_man=1f468.200d.1f9b1 bald_man=1f468.200d.1f9b2
white-haired_man=1f468.200d.1f9b3 man_in_motorized_wheelchair=1f468.200d.1f9bc
man_in_manual_wheelchair=1f468.200d.1f9bd man_light_skin_tone=1f468.1f3fb
man_health_worker_light_skin_tone=1f468.1f3fb.200d.2695.fe0f
man_judge_light_skin_tone=1f468.1f3fb.200d.2696.fe0f
man_pilot_light_skin_tone=1f468.1f3fb.200d.2708.fe0f
man_farmer_light_skin_tone=1f468.1f3fb.200d.1f33e
man_cook_light_skin_tone=1f468.1f3fb.200d.1f373
man_student_light_skin_tone=1f468.1f3fb.200d.1f393
man_singer_light_skin_tone=1f468.1f3fb.200d.1f3a4
man_artist_light_skin_tone=1f468.1f3fb.200d.1f3a8
man_teacher_light_skin_tone=1f468.1f3fb.200d.1f3eb
man_factory_worker_light_skin_tone=1f468.1f3fb.200d.1f3ed
man_technologist_light_skin_tone=1f468.1f3fb.200d.1f4bb
man_office_worker_light_skin_tone=1f468.1f3fb.200d.1f4bc
man_mechanic_light_skin_tone=1f468.1f3fb.200d.1f527
man_scientist_light_skin_tone=1f468.1f3fb.200d.1f52c
man_astronaut_light_skin_tone=1f468.1f3fb.200d.1f680
man_firefighter_light_skin_tone=1f468.1f3fb.200d.1f692 man_medium-light_skin_tone=1f468.1f3fc
man_health_worker_medium-light_skin_tone=1f468.1f3fc.200d.2695.fe0f
man_judge_medium-light_skin_tone=1f468.1f3fc.200d.2696.fe0f
man_pilot_medium-light_skin_tone=1f468.1f3fc.200d.2708.fe0f
man_farmer_medium-light_skin_tone=1f468.1f3fc.200d.1f33e
man_cook_medium-light_skin_tone=1f468.1f3fc.200d.1f373
man_student_medium-light_skin_tone=1f468.1f3fc.200d.1f393
man_singer_medium-light_skin_tone=1f468.1f3fc.200d.1f3a4
man_artist_medium-light_skin_tone=1f468.1f3fc.200d.1f3a8
man_teacher_medium-light_skin_tone=1f468.1f3fc.200d.1f3eb
man_factory_worker_medium-light_skin_tone=1f468.1f3fc.200d.1f3ed
man_technologist_medium-light_skin_tone=1f468.1f3fc.200d.1f4bb
man_office_worker_medium-light_skin_tone=1f468.1f3fc.200d.1f4bc
man_mechanic_medium-light_skin_tone=1f468.1f3fc.200d.1f527
man_scientist_medium-light_skin_tone=1f468.1f3fc.200d.1f52c
man_astronaut_medium-light_skin_tone=1f468.1f3fc.200d.1f680
man_firefighter_medium-light_skin_tone=1f468.1f3fc.200d.1f692 man_medium_skin_tone=1f468.1f3fd
man_health_worker_medium_skin_tone=1f468.1f3fd.200d.2695.fe0f
man_judge_medium_skin_tone=1f468.1f3fd.200d.2696.fe0f
man_pilot_medium_skin_tone=1f468.1f3fd.200d.2708.fe0f
man_farmer_medium_skin_tone=1f468.1f3fd.200d.1f33e
man_cook_medium_skin_tone=1f468.1f3fd.200d.1f373
man_student_medium_skin_tone=1f468.1f3fd.200d.1f393
man_singer_medium_skin_tone=1f468.1f3fd.200d.1f3a4
man_artist_medium_skin_tone=1f468.1f3fd.200d.1f3a8
man_teacher_medium_skin_tone=1f468.1f3fd.200d.1f3eb
man_factory_worker_medium_skin_tone=1f468.1f3fd.200d.1f3ed
man_technologist_medium_skin_tone=1f468.1f3fd.200d.1f4bb
man_office_worker_medium_skin_tone=1f468.1f3fd.200d.1f4bc
man_mechanic_medium_skin_tone=1f468.1f3fd.200d.1f527
man_scientist_medium_skin_tone=1f468.1f3fd.200d.1f52c
man_astronaut_medium_skin_tone=1f468.1f3fd.200d.1f680
man_firefighter_medium_skin_tone=1f468.1f3fd.200d.1f692 man_medium-dark_skin_tone=1f468.1f3fe
man_health_worker_medium-dark_skin_tone=1f468.1f3fe.200d.2695.fe0f
man_judge_medium-dark_skin_tone=1f468.1f3fe.200d.2696.fe0f
man_pilot_medium-dark_skin_tone=1f468.1f3fe.200d.2708.fe0f
man_farmer_medium-dark_skin_tone=1f468.1f3fe.200d.1f33e
man_cook_medium-dark_skin_tone=1f468.1f3fe.200d.1f373
man_student_medium-dark_skin_tone=1f468.1f3fe.200d.1f393
man_singer_medium-dark_skin_tone=1f468.1f3fe.200d.1f3a4
man_artist_medium-dark_skin_tone=1f468.1f3fe.200d.1f3a8
man_teacher_medium-dark_skin_tone=1f468.1f3fe.200d.1f3eb
man_factory_worker_medium-dark_skin_tone=1f468.1f3fe.200d.1f3ed
man_technologist_medium-dark_skin_tone=1f468.1f3fe.200d.1f4bb
man_office_worker_medium-dark_skin_tone=1f468.1f3fe.200d.1f4bc
man_mechanic_medium-dark_skin_tone=1f468.1f3fe.200d.1f527
man_scientist_medium-dark_skin_tone=1f468.1f3fe.200d.1f52c
man_astronaut_medium-dark_skin_tone=1f468.1f3fe.200d.1f680
man_firefighter_medium-dark_skin_tone=1f468.1f3fe.200d.1f692 man_dark_skin_tone=1f468.1f3ff
man_health_worker_dark_skin_tone=1f468.1f3ff.200d.2695.fe0f
man_judge_dark_skin_tone=1f468.1f3ff.200d.2696.fe0f
man_pilot_dark_skin_tone=1f468.1f3ff.200d.2708.fe0f
man_farmer_dark_skin_tone=1f468.1f3ff.200d.1f33e man_cook_dark_skin_tone=1f468.1f3ff.200d.1f373
man_student_dark_skin_tone=1f468.1f3ff.200d.1f393
man_singer_dark_skin_tone=1f468.1f3ff.200d.1f3a4
man_artist_dark_skin_tone=1f468.1f3ff.200d.1f3a8
man_teacher_dark_skin_tone=1f468.1f3ff.200d.1f3eb
man_factory_worker_dark_skin_tone=1f468.1f3ff.200d.1f3ed
man_technologist_dark_skin_tone=1f468.1f3ff.200d.1f4bb
man_office_worker_dark_skin_tone=1f468.1f3ff.200d.1f4bc
man_mechanic_dark_skin_tone=1f468.1f3ff.200d.1f527
man_scientist_dark_skin_tone=1f468.1f3ff.200d.1f52c
man_astronaut_dark_skin_tone=1f468.1f3ff.200d.1f680
man_firefighter_dark_skin_tone=1f468.1f3ff.200d.1f692 woman=1f469
woman_health_worker=1f469.200d.2695.fe0f woman_judge=1f469.200d.2696.fe0f
woman_pilot=1f469.200d.2708.fe0f couple_with_heart_woman_man=1f469.200d.2764.fe0f.200d.1f468
couple_with_heart_woman_woman=1f469.200d.2764.fe0f.200d.1f469
kiss_woman_man=1f469.200d.2764.fe0f.200d.1f48b.200d.1f468
kiss_woman_woman=1f469.200d.2764.fe0f.200d.1f48b.200d.1f469 woman_farmer=1f469.200d.1f33e
woman_cook=1f469.200d.1f373 woman_student=1f469.200d.1f393 woman_singer=1f469.200d.1f3a4
woman_artist=1f469.200d.1f3a8 woman_teacher=1f469.200d.1f3eb
woman_factory_worker=1f469.200d.1f3ed family_woman_boy=1f469.200d.1f466
family_woman_boy_boy=1f469.200d.1f466.200d.1f466 family_woman_girl=1f469.200d.1f467
family_woman_girl_boy=1f469.200d.1f467.200d.1f466
family_woman_girl_girl=1f469.200d.1f467.200d.1f467
family_woman_woman_boy=1f469.200d.1f469.200d.1f466
family_woman_woman_boy_boy=1f469.200d.1f469.200d.1f466.200d.1f466
family_woman_woman_girl=1f469.200d.1f469.200d.1f467
family_woman_woman_girl_boy=1f469.200d.1f469.200d.1f467.200d.1f466
family_woman_woman_girl_girl=1f469.200d.1f469.200d.1f467.200d.1f467
woman_technologist=1f469.200d.1f4bb woman_office_worker=1f469.200d.1f4bc
woman_mechanic=1f469.200d.1f527 woman_scientist=1f469.200d.1f52c
woman_astronaut=1f469.200d.1f680 woman_firefighter=1f469.200d.1f692
woman_with_probing_cane=1f469.200d.1f9af red-haired_woman=1f469.200d.1f9b0
curly-haired_woman=1f469.200d.1f9b1 bald_woman=1f469.200d.1f9b2
white-haired_woman=1f469.200d.1f9b3 woman_in_motorized_wheelchair=1f469.200d.1f9bc
woman_in_manual_wheelchair=1f469.200d.1f9bd woman_light_skin_tone=1f469.1f3fb
woman_health_worker_light_skin_tone=1f469.1f3fb.200d.2695.fe0f
woman_judge_light_skin_tone=1f469.1f3fb.200d.2696.fe0f
woman_pilot_light_skin_tone=1f469.1f3fb.200d.2708.fe0f
woman_farmer_light_skin_tone=1f469.1f3fb.200d.1f33e
woman_cook_light_skin_tone=1f469.1f3fb.200d.1f373
woman_student_light_skin_tone=1f469.1f3fb.200d.1f393
woman_singer_light_skin_tone=1f469.1f3fb.200d.1f3a4
woman_artist_light_skin_tone=1f469.1f3fb.200d.1f3a8
woman_teacher_light_skin_tone=1f469.1f3fb.200d.1f3eb
woman_factory_worker_light_skin_tone=1f469.1f3fb.200d.1f3ed
woman_technologist_light_skin_tone=1f469.1f3fb.200d.1f4bb
woman_office_worker_light_skin_tone=1f469.1f3fb.200d.1f4bc
woman_mechanic_light_skin_tone=1f469.1f3fb.200d.1f527
woman_scientist_light_skin_tone=1f469.1f3fb.200d.1f52c
woman_astronaut_light_skin_tone=1f469.1f3fb.200d.1f680
woman_firefighter_light_skin_tone=1f469.1f3fb.200d.1f692
woman_medium-light_skin_tone=1f469.1f3fc
woman_health_worker_medium-light_skin_tone=1f469.1f3fc.200d.2695.fe0f
woman_judge_medium-light_skin_tone=1f469.1f3fc.200d.2696.fe0f
woman_pilot_medium-light_skin_tone=1f469.1f3fc.200d.2708.fe0f
woman_farmer_medium-light_skin_tone=1f469.1f3fc.200d.1f33e
woman_cook_medium-light_skin_tone=1f469.1f3fc.200d.1f373
woman_student_medium-light_skin_tone=1f469.1f3fc.200d.1f393
woman_singer_medium-light_skin_tone=1f469.1f3fc.200d.1f3a4
woman_artist_medium-light_skin_tone=1f469.1f3fc.200d.1f3a8
woman_teacher_medium-light_skin_tone=1f469.1f3fc.200d.1f3eb
woman_factory_worker_medium-light_skin_tone=1f469.1f3fc.200d.1f3ed
woman_technologist_medium-light_skin_tone=1f469.1f3fc.200d.1f4bb
woman_office_worker_medium-light_skin_tone=1f469.1f3fc.200d.1f4bc
woman_mechanic_medium-light_skin_tone=1f469.1f3fc.200d.1f527
woman_scientist_medium-light_skin_tone=1f469.1f3fc.200d.1f52c
woman_astronaut_medium-light_skin_tone=1f469.1f3fc.200d.1f680
woman_firefighter_medium-light_skin_tone=1f469.1f3fc.200d.1f692
woman_medium_skin_tone=1f469.1f3fd
woman_health_worker_medium_skin_tone=1f469.1f3fd.200d.2695.fe0f
woman_judge_medium_skin_tone=1f469.1f3fd.200d.2696.fe0f
woman_pilot_medium_skin_tone=1f469.1f3fd.200d.2708.fe0f
woman_farmer_medium_skin_tone=1f469.1f3fd.200d.1f33e
woman_cook_medium_skin_tone=1f469.1f3fd.200d.1f373
woman_student_medium_skin_tone=1f469.1f3fd.200d.1f393
woman_singer_medium_skin_tone=1f469.1f3fd.200d.1f3a4
woman_artist_medium_skin_tone=1f469.1f3fd.200d.1f3a8
woman_teacher_medium_skin_tone=1f469.1f3fd.200d.1f3eb
woman_factory_worker_medium_skin_tone=1f469.1f3fd.200d.1f3ed
woman_technologist_medium_skin_tone=1f469.1f3fd.200d.1f4bb
woman_office_worker_medium_skin_tone=1f469.1f3fd.200d.1f4bc
woman_mechanic_medium_skin_tone=1f469.1f3fd.200d.1f527
woman_scientist_medium_skin_tone=1f469.1f3fd.200d.1f52c
woman_astronaut_medium_skin_tone=1f469.1f3fd.200d.1f680
woman_firefighter_medium_skin_tone=1f469.1f3fd.200d.1f692
woman_medium-dark_skin_tone=1f469.1f3fe
woman_health_worker_medium-dark_skin_tone=1f469.1f3fe.200d.2695.fe0f
woman_judge_medium-dark_skin_tone=1f469.1f3fe.200d.2696.fe0f
woman_pilot_medium-dark_skin_tone=1f469.1f3fe.200d.2708.fe0f
woman_farmer_medium-dark_skin_tone=1f469.1f3fe.200d.1f33e
woman_cook_medium-dark_skin_tone=1f469.1f3fe.200d.1f373
woman_student_medium-dark_skin_tone=1f469.1f3fe.200d.1f393
woman_singer_medium-dark_skin_tone=1f469.1f3fe.200d.1f3a4
woman_artist_medium-dark_skin_tone=1f469.1f3fe.200d.1f3a8
woman_teacher_medium-dark_skin_tone=1f469.1f3fe.200d.1f3eb
woman_factory_worker_medium-dark_skin_tone=1f469.1f3fe.200d.1f3ed
woman_technologist_medium-dark_skin_tone=1f469.1f3fe.200d.1f4bb
woman_office_worker_medium-dark_skin_tone=1f469.1f3fe.200d.1f4bc
woman_mechanic_medium-dark_skin_tone=1f469.1f3fe.200d.1f527
woman_scientist_medium-dark_skin_tone=1f469.1f3fe.200d.1f52c
woman_astronaut_medium-dark_skin_tone=1f469.1f3fe.200d.1f680
woman_firefighter_medium-dark_skin_tone=1f469.1f3fe.200d.1f692 woman_dark_skin_tone=1f469.1f3ff
woman_health_worker_dark_skin_tone=1f469.1f3ff.200d.2695.fe0f
woman_judge_dark_skin_tone=1f469.1f3ff.200d.2696.fe0f
woman_pilot_dark_skin_tone=1f469.1f3ff.200d.2708.fe0f
woman_farmer_dark_skin_tone=1f469.1f3ff.200d.1f33e
woman_cook_dark_skin_tone=1f469.1f3ff.200d.1f373
woman_student_dark_skin_tone=1f469.1f3ff.200d.1f393
woman_singer_dark_skin_tone=1f469.1f3ff.200d.1f3a4
woman_artist_dark_skin_tone=1f469.1f3ff.200d.1f3a8
woman_teacher_dark_skin_tone=1f469.1f3ff.200d.1f3eb
woman_factory_worker_dark_skin_tone=1f469.1f3ff.200d.1f3ed
woman_technologist_dark_skin_tone=1f469.1f3ff.200d.1f4bb
woman_office_worker_dark_skin_tone=1f469.1f3ff.200d.1f4bc
woman_mechanic_dark_skin_tone=1f469.1f3ff.200d.1f527
woman_scientist_dark_skin_tone=1f469.1f3ff.200d.1f52c
woman_astronaut_dark_skin_tone=1f469.1f3ff.200d.1f680
woman_firefighter_dark_skin_tone=1f469.1f3ff.200d.1f692 family=1f46a
man_and_woman_holding_hands,couple=1f46b two_men_holding_hands=1f46c
two_women_holding_hands=1f46d police_officer,cop=1f46e woman_police_officer=1f46e.200d.2640.fe0f
man_police_officer=1f46e.200d.2642.fe0f police_officer_light_skin_tone=1f46e.1f3fb
woman_police_officer_light_skin_tone=1f46e.1f3fb.200d.2640.fe0f
man_police_officer_light_skin_tone=1f46e.1f3fb.200d.2642.fe0f
police_officer_medium-light_skin_tone=1f46e.1f3fc
woman_police_officer_medium-light_skin_tone=1f46e.1f3fc.200d.2640.fe0f
man_police_officer_medium-light_skin_tone=1f46e.1f3fc.200d.2642.fe0f
police_officer_medium_skin_tone=1f46e.1f3fd
woman_police_officer_medium_skin_tone=1f46e.1f3fd.200d.2640.fe0f
man_police_officer_medium_skin_tone=1f46e.1f3fd.200d.2642.fe0f
police_officer_medium-dark_skin_tone=1f46e.1f3fe
woman_police_officer_medium-dark_skin_tone=1f46e.1f3fe.200d.2640.fe0f
man_police_officer_medium-dark_skin_tone=1f46e.1f3fe.200d.2642.fe0f
police_officer_dark_skin_tone=1f46e.1f3ff
woman_police_officer_dark_skin_tone=1f46e.1f3ff.200d.2640.fe0f
man_police_officer_dark_skin_tone=1f46e.1f3ff.200d.2642.fe0f
people_with_bunny_ears,dancers=1f46f women_with_bunny_ears=1f46f.200d.2640.fe0f
men_with_bunny_ears=1f46f.200d.2642.fe0f bride_with_veil=1f470
bride_with_veil_light_skin_tone=1f470.1f3fb bride_with_veil_medium-light_skin_tone=1f470.1f3fc
bride_with_veil_medium_skin_tone=1f470.1f3fd bride_with_veil_medium-dark_skin_tone=1f470.1f3fe
bride_with_veil_dark_skin_tone=1f470.1f3ff blond-haired_person,person_with_blond_hair=1f471
blond-haired_woman=1f471.200d.2640.fe0f blond-haired_man=1f471.200d.2642.fe0f
blond-haired_person_light_skin_tone=1f471.1f3fb
blond-haired_woman_light_skin_tone=1f471.1f3fb.200d.2640.fe0f
blond-haired_man_light_skin_tone=1f471.1f3fb.200d.2642.fe0f
blond-haired_person_medium-light_skin_tone=1f471.1f3fc
blond-haired_woman_medium-light_skin_tone=1f471.1f3fc.200d.2640.fe0f
blond-haired_man_medium-light_skin_tone=1f471.1f3fc.200d.2642.fe0f
blond-haired_person_medium_skin_tone=1f471.1f3fd
blond-haired_woman_medium_skin_tone=1f471.1f3fd.200d.2640.fe0f
blond-haired_man_medium_skin_tone=1f471.1f3fd.200d.2642.fe0f
blond-haired_person_medium-dark_skin_tone=1f471.1f3fe
blond-haired_woman_medium-dark_skin_tone=1f471.1f3fe.200d.2640.fe0f
blond-haired_man_medium-dark_skin_tone=1f471.1f3fe.200d.2642.fe0f
blond-haired_person_dark_skin_tone=1f471.1f3ff
blond-haired_woman_dark_skin_tone=1f471.1f3ff.200d.2640.fe0f
blond-haired_man_dark_skin_tone=1f471.1f3ff.200d.2642.fe0f
man_with_chinese_cap,man_with_gua_pi_mao=1f472 man_with_chinese_cap_light_skin_tone=1f472.1f3fb
man_with_chinese_cap_medium-light_skin_tone=1f472.1f3fc
man_with_chinese_cap_medium_skin_tone=1f472.1f3fd
man_with_chinese_cap_medium-dark_skin_tone=1f472.1f3fe
man_with_chinese_cap_dark_skin_tone=1f472.1f3ff person_wearing_turban,man_with_turban=1f473
woman_wearing_turban=1f473.200d.2640.fe0f man_wearing_turban=1f473.200d.2642.fe0f
person_wearing_turban_light_skin_tone=1f473.1f3fb
woman_wearing_turban_light_skin_tone=1f473.1f3fb.200d.2640.fe0f
man_wearing_turban_light_skin_tone=1f473.1f3fb.200d.2642.fe0f
person_wearing_turban_medium-light_skin_tone=1f473.1f3fc
woman_wearing_turban_medium-light_skin_tone=1f473.1f3fc.200d.2640.fe0f
man_wearing_turban_medium-light_skin_tone=1f473.1f3fc.200d.2642.fe0f
person_wearing_turban_medium_skin_tone=1f473.1f3fd
woman_wearing_turban_medium_skin_tone=1f473.1f3fd.200d.2640.fe0f
man_wearing_turban_medium_skin_tone=1f473.1f3fd.200d.2642.fe0f
person_wearing_turban_medium-dark_skin_tone=1f473.1f3fe
woman_wearing_turban_medium-dark_skin_tone=1f473.1f3fe.200d.2640.fe0f
man_wearing_turban_medium-dark_skin_tone=1f473.1f3fe.200d.2642.fe0f
person_wearing_turban_dark_skin_tone=1f473.1f3ff
woman_wearing_turban_dark_skin_tone=1f473.1f3ff.200d.2640.fe0f
man_wearing_turban_dark_skin_tone=1f473.1f3ff.200d.2642.fe0f old_man,older_man=1f474
old_man_light_skin_tone=1f474.1f3fb old_man_medium-light_skin_tone=1f474.1f3fc
old_man_medium_skin_tone=1f474.1f3fd old_man_medium-dark_skin_tone=1f474.1f3fe
old_man_dark_skin_tone=1f474.1f3ff old_woman,older_woman=1f475
old_woman_light_skin_tone=1f475.1f3fb old_woman_medium-light_skin_tone=1f475.1f3fc
old_woman_medium_skin_tone=1f475.1f3fd old_woman_medium-dark_skin_tone=1f475.1f3fe
old_woman_dark_skin_tone=1f475.1f3ff baby=1f476 baby_light_skin_tone=1f476.1f3fb
baby_medium-light_skin_tone=1f476.1f3fc baby_medium_skin_tone=1f476.1f3fd
baby_medium-dark_skin_tone=1f476.1f3fe baby_dark_skin_tone=1f476.1f3ff construction_worker=1f477
woman_construction_worker=1f477.200d.2640.fe0f man_construction_worker=1f477.200d.2642.fe0f
construction_worker_light_skin_tone=1f477.1f3fb
woman_construction_worker_light_skin_tone=1f477.1f3fb.200d.2640.fe0f
man_construction_worker_light_skin_tone=1f477.1f3fb.200d.2642.fe0f
construction_worker_medium-light_skin_tone=1f477.1f3fc
woman_construction_worker_medium-light_skin_tone=1f477.1f3fc.200d.2640.fe0f
man_construction_worker_medium-light_skin_tone=1f477.1f3fc.200d.2642.fe0f
construction_worker_medium_skin_tone=1f477.1f3fd
woman_construction_worker_medium_skin_tone=1f477.1f3fd.200d.2640.fe0f
man_construction_worker_medium_skin_tone=1f477.1f3fd.200d.2642.fe0f
construction_worker_medium-dark_skin_tone=1f477.1f3fe
woman_construction_worker_medium-dark_skin_tone=1f477.1f3fe.200d.2640.fe0f
man_construction_worker_medium-dark_skin_tone=1f477.1f3fe.200d.2642.fe0f
construction_worker_dark_skin_tone=1f477.1f3ff
woman_construction_worker_dark_skin_tone=1f477.1f3ff.200d.2640.fe0f
man_construction_worker_dark_skin_tone=1f477.1f3ff.200d.2642.fe0f princess=1f478
princess_light_skin_tone=1f478.1f3fb princess_medium-light_skin_tone=1f478.1f3fc
princess_medium_skin_tone=1f478.1f3fd princess_medium-dark_skin_tone=1f478.1f3fe
princess_dark_skin_tone=1f478.1f3ff ogre,japanese_ogre=1f479 goblin,japanese_goblin=1f47a
ghost=1f47b baby_angel,angel=1f47c baby_angel_light_skin_tone=1f47c.1f3fb
baby_angel_medium-light_skin_tone=1f47c.1f3fc baby_angel_medium_skin_tone=1f47c.1f3fd
baby_angel_medium-dark_skin_tone=1f47c.1f3fe baby_angel_dark_skin_tone=1f47c.1f3ff alien=1f47d
alien_monster,space_invader=1f47e angry_face_with_horns,imp=1f47f skull=1f480
person_tipping_hand,information_desk_person=1f481 woman_tipping_hand=1f481.200d.2640.fe0f
man_tipping_hand=1f481.200d.2642.fe0f person_tipping_hand_light_skin_tone=1f481.1f3fb
woman_tipping_hand_light_skin_tone=1f481.1f3fb.200d.2640.fe0f
man_tipping_hand_light_skin_tone=1f481.1f3fb.200d.2642.fe0f
person_tipping_hand_medium-light_skin_tone=1f481.1f3fc
woman_tipping_hand_medium-light_skin_tone=1f481.1f3fc.200d.2640.fe0f
man_tipping_hand_medium-light_skin_tone=1f481.1f3fc.200d.2642.fe0f
person_tipping_hand_medium_skin_tone=1f481.1f3fd
woman_tipping_hand_medium_skin_tone=1f481.1f3fd.200d.2640.fe0f
man_tipping_hand_medium_skin_tone=1f481.1f3fd.200d.2642.fe0f
person_tipping_hand_medium-dark_skin_tone=1f481.1f3fe
woman_tipping_hand_medium-dark_skin_tone=1f481.1f3fe.200d.2640.fe0f
man_tipping_hand_medium-dark_skin_tone=1f481.1f3fe.200d.2642.fe0f
person_tipping_hand_dark_skin_tone=1f481.1f3ff
woman_tipping_hand_dark_skin_tone=1f481.1f3ff.200d.2640.fe0f
man_tipping_hand_dark_skin_tone=1f481.1f3ff.200d.2642.fe0f guard,guardsman=1f482
woman_guard=1f482.200d.2640.fe0f man_guard=1f482.200d.2642.fe0f
guard_light_skin_tone=1f482.1f3fb woman_guard_light_skin_tone=1f482.1f3fb.200d.2640.fe0f
man_guard_light_skin_tone=1f482.1f3fb.200d.2642.fe0f guard_medium-light_skin_tone=1f482.1f3fc
woman_guard_medium-light_skin_tone=1f482.1f3fc.200d.2640.fe0f
man_guard_medium-light_skin_tone=1f482.1f3fc.200d.2642.fe0f guard_medium_skin_tone=1f482.1f3fd
woman_guard_medium_skin_tone=1f482.1f3fd.200d.2640.fe0f
man_guard_medium_skin_tone=1f482.1f3fd.200d.2642.fe0f guard_medium-dark_skin_tone=1f482.1f3fe
woman_guard_medium-dark_skin_tone=1f482.1f3fe.200d.2640.fe0f
man_guard_medium-dark_skin_tone=1f482.1f3fe.200d.2642.fe0f guard_dark_skin_tone=1f482.1f3ff
woman_guard_dark_skin_tone=1f482.1f3ff.200d.2640.fe0f
man_guard_dark_skin_tone=1f482.1f3ff.200d.2642.fe0f woman_dancing,dancer=1f483
woman_dancing_light_skin_tone=1f483.1f3fb woman_dancing_medium-light_skin_tone=1f483.1f3fc
woman_dancing_medium_skin_tone=1f483.1f3fd woman_dancing_medium-dark_skin_tone=1f483.1f3fe
woman_dancing_dark_skin_tone=1f483.1f3ff lipstick=1f484 nail_polish,nail_care=1f485
nail_polish_light_skin_tone=1f485.1f3fb nail_polish_medium-light_skin_tone=1f485.1f3fc
nail_polish_medium_skin_tone=1f485.1f3fd nail_polish_medium-dark_skin_tone=1f485.1f3fe
nail_polish_dark_skin_tone=1f485.1f3ff person_getting_massage,massage=1f486
woman_getting_massage=1f486.200d.2640.fe0f man_getting_massage=1f486.200d.2642.fe0f
person_getting_massage_light_skin_tone=1f486.1f3fb
woman_getting_massage_light_skin_tone=1f486.1f3fb.200d.2640.fe0f
man_getting_massage_light_skin_tone=1f486.1f3fb.200d.2642.fe0f
person_getting_massage_medium-light_skin_tone=1f486.1f3fc
woman_getting_massage_medium-light_skin_tone=1f486.1f3fc.200d.2640.fe0f
man_getting_massage_medium-light_skin_tone=1f486.1f3fc.200d.2642.fe0f
person_getting_massage_medium_skin_tone=1f486.1f3fd
woman_getting_massage_medium_skin_tone=1f486.1f3fd.200d.2640.fe0f
man_getting_massage_medium_skin_tone=1f486.1f3fd.200d.2642.fe0f
person_getting_massage_medium-dark_skin_tone=1f486.1f3fe
woman_getting_massage_medium-dark_skin_tone=1f486.1f3fe.200d.2640.fe0f
man_getting_massage_medium-dark_skin_tone=1f486.1f3fe.200d.2642.fe0f
person_getting_massage_dark_skin_tone=1f486.1f3ff
woman_getting_massage_dark_skin_tone=1f486.1f3ff.200d.2640.fe0f
man_getting_massage_dark_skin_tone=1f486.1f3ff.200d.2642.fe0f
person_getting_haircut,haircut=1f487 woman_getting_haircut=1f487.200d.2640.fe0f
man_getting_haircut=1f487.200d.2642.fe0f person_getting_haircut_light_skin_tone=1f487.1f3fb
woman_getting_haircut_light_skin_tone=1f487.1f3fb.200d.2640.fe0f
man_getting_haircut_light_skin_tone=1f487.1f3fb.200d.2642.fe0f
person_getting_haircut_medium-light_skin_tone=1f487.1f3fc
woman_getting_haircut_medium-light_skin_tone=1f487.1f3fc.200d.2640.fe0f
man_getting_haircut_medium-light_skin_tone=1f487.1f3fc.200d.2642.fe0f
person_getting_haircut_medium_skin_tone=1f487.1f3fd
woman_getting_haircut_medium_skin_tone=1f487.1f3fd.200d.2640.fe0f
man_getting_haircut_medium_skin_tone=1f487.1f3fd.200d.2642.fe0f
person_getting_haircut_medium-dark_skin_tone=1f487.1f3fe
woman_getting_haircut_medium-dark_skin_tone=1f487.1f3fe.200d.2640.fe0f
man_getting_haircut_medium-dark_skin_tone=1f487.1f3fe.200d.2642.fe0f
person_getting_haircut_dark_skin_tone=1f487.1f3ff
woman_getting_haircut_dark_skin_tone=1f487.1f3ff.200d.2640.fe0f
man_getting_haircut_dark_skin_tone=1f487.1f3ff.200d.2642.fe0f barber_pole,barber=1f488
syringe=1f489 pill=1f48a kiss,kiss_mark=1f48b love_letter=1f48c ring=1f48d gem_stone,gem=1f48e
couplekiss=1f48f bouquet=1f490 couple_with_heart=1f491 wedding=1f492
beating_heart,heartbeat=1f493 broken_heart=1f494 two_hearts=1f495 sparkling_heart=1f496
growing_heart,heartpulse=1f497 heart_with_arrow,cupid=1f498 blue_heart=1f499 green_heart=1f49a
yellow_heart=1f49b purple_heart=1f49c heart_with_ribbon,gift_heart=1f49d revolving_hearts=1f49e
heart_decoration=1f49f diamond_with_a_dot,diamond_shape_with_a_dot_inside=1f4a0
light_bulb,bulb=1f4a1 anger_symbol,anger=1f4a2 bomb=1f4a3 zzz=1f4a4 collision,boom=1f4a5
sweat_droplets,sweat_drops=1f4a6 droplet=1f4a7 dashing_away,dash=1f4a8
pile_of_poo,hankey,poop,shit=1f4a9 flexed_biceps,muscle=1f4aa
flexed_biceps_light_skin_tone=1f4aa.1f3fb flexed_biceps_medium-light_skin_tone=1f4aa.1f3fc
flexed_biceps_medium_skin_tone=1f4aa.1f3fd flexed_biceps_medium-dark_skin_tone=1f4aa.1f3fe
flexed_biceps_dark_skin_tone=1f4aa.1f3ff dizzy=1f4ab speech_balloon=1f4ac thought_balloon=1f4ad
white_flower=1f4ae hundred_points,100=1f4af money_bag,moneybag=1f4b0 currency_exchange=1f4b1
heavy_dollar_sign=1f4b2 credit_card=1f4b3 yen_banknote,yen=1f4b4 dollar_banknote,dollar=1f4b5
euro_banknote,euro=1f4b6 pound_banknote,pound=1f4b7 money_with_wings=1f4b8
chart_increasing_with_yen,chart=1f4b9 seat=1f4ba laptop_computer,computer=1f4bb briefcase=1f4bc
computer_disk,minidisc=1f4bd floppy_disk=1f4be optical_disk,cd=1f4bf dvd=1f4c0 file_folder=1f4c1
open_file_folder=1f4c2 page_with_curl=1f4c3 page_facing_up=1f4c4 date=1f4c5
calendar,tear-off_calendar=1f4c6 card_index=1f4c7
chart_increasing,chart_with_upwards_trend=1f4c8
chart_decreasing,chart_with_downwards_trend=1f4c9 bar_chart=1f4ca clipboard=1f4cb pushpin=1f4cc
round_pushpin=1f4cd paperclip=1f4ce straight_ruler=1f4cf triangular_ruler=1f4d0
bookmark_tabs=1f4d1 ledger=1f4d2 notebook=1f4d3 notebook_with_decorative_cover=1f4d4
closed_book=1f4d5 open_book,book=1f4d6 green_book=1f4d7 blue_book=1f4d8 orange_book=1f4d9
books=1f4da name_badge=1f4db scroll=1f4dc memo,pencil=1f4dd telephone_receiver=1f4de pager=1f4df
fax_machine,fax=1f4e0 satellite,satellite_antenna=1f4e1 loudspeaker=1f4e2 megaphone,mega=1f4e3
outbox_tray=1f4e4 inbox_tray=1f4e5 package=1f4e6 e-mail,e__mail=1f4e7 incoming_envelope=1f4e8
envelope_with_arrow=1f4e9 closed_mailbox_with_lowered_flag,mailbox_closed=1f4ea
closed_mailbox_with_raised_flag,mailbox=1f4eb
open_mailbox_with_raised_flag,mailbox_with_mail=1f4ec
open_mailbox_with_lowered_flag,mailbox_with_no_mail=1f4ed postbox=1f4ee postal_horn=1f4ef
newspaper=1f4f0 mobile_phone,iphone=1f4f1 mobile_phone_with_arrow,calling=1f4f2
vibration_mode=1f4f3 mobile_phone_off=1f4f4 no_mobile_phones=1f4f5
antenna_bars,signal_strength=1f4f6 camera=1f4f7 camera_with_flash=1f4f8 video_camera=1f4f9
television,tv=1f4fa radio=1f4fb videocassette,vhs=1f4fc film_projector=1f4fd prayer_beads=1f4ff
shuffle_tracks_button,twisted_rightwards_arrows=1f500 repeat_button,repeat=1f501
repeat_single_button,repeat_one=1f502 clockwise_vertical_arrows,arrows_clockwise=1f503
counterclockwise_arrows_button,arrows_counterclockwise=1f504 dim_button,low_brightness=1f505
bright_button,high_brightness=1f506 muted_speaker,mute=1f507 speaker_low_volume,speaker=1f508
speaker_medium_volume,sound=1f509 speaker_high_volume,loud_sound=1f50a battery=1f50b
electric_plug=1f50c magnifying_glass_tilted_left,mag=1f50d
magnifying_glass_tilted_right,mag_right=1f50e locked_with_pen,lock_with_ink_pen=1f50f
locked_with_key,closed_lock_with_key=1f510 key=1f511 locked,lock=1f512 unlocked,unlock=1f513
bell=1f514 bell_with_slash,no_bell=1f515 bookmark=1f516 link=1f517 radio_button=1f518
back_arrow,back=1f519 end_arrow,end=1f51a on!_arrow,on=1f51b soon_arrow,soon=1f51c
top_arrow,top=1f51d no_one_under_eighteen,underage=1f51e keycap_10,ten=1f51f
input_latin_uppercase,capital_abcd=1f520 input_latin_lowercase,abcd=1f521
input_numbers,1234=1f522 input_symbols,symbols=1f523 input_latin_letters,abc=1f524 fire=1f525
flashlight=1f526 wrench=1f527 hammer=1f528 nut_and_bolt=1f529 kitchen_knife,hocho,knife=1f52a
pistol,gun=1f52b microscope=1f52c telescope=1f52d crystal_ball=1f52e
dotted_six-pointed_star,six_pointed_star=1f52f japanese_symbol_for_beginner,beginner=1f530
trident_emblem,trident=1f531 black_square_button=1f532 white_square_button=1f533
red_circle=1f534 blue_circle,large_blue_circle=1f535 large_orange_diamond=1f536
large_blue_diamond=1f537 small_orange_diamond=1f538 small_blue_diamond=1f539
red_triangle_pointed_up,small_red_triangle=1f53a
red_triangle_pointed_down,small_red_triangle_down=1f53b upwards_button,arrow_up_small=1f53c
downwards_button,arrow_down_small=1f53d om,om_symbol=1f549 dove,dove_of_peace=1f54a kaaba=1f54b
mosque=1f54c synagogue=1f54d menorah,menorah_with_nine_branches=1f54e one_o’clock,clock1=1f550
two_o’clock,clock2=1f551 three_o’clock,clock3=1f552 four_o’clock,clock4=1f553
five_o’clock,clock5=1f554 six_o’clock,clock6=1f555 seven_o’clock,clock7=1f556
eight_o’clock,clock8=1f557 nine_o’clock,clock9=1f558 ten_o’clock,clock10=1f559
eleven_o’clock,clock11=1f55a twelve_o’clock,clock12=1f55b one-thirty,clock130=1f55c
two-thirty,clock230=1f55d three-thirty,clock330=1f55e four-thirty,clock430=1f55f
five-thirty,clock530=1f560 six-thirty,clock630=1f561 seven-thirty,clock730=1f562
eight-thirty,clock830=1f563 nine-thirty,clock930=1f564 ten-thirty,clock1030=1f565
eleven-thirty,clock1130=1f566 twelve-thirty,clock1230=1f567 candle=1f56f mantelpiece_clock=1f570
hole=1f573 man_in_suit_levitating,man_in_business_suit_levitating=1f574
man_in_suit_levitating_light_skin_tone=1f574.1f3fb
man_in_suit_levitating_medium-light_skin_tone=1f574.1f3fc
man_in_suit_levitating_medium_skin_tone=1f574.1f3fd
man_in_suit_levitating_medium-dark_skin_tone=1f574.1f3fe
man_in_suit_levitating_dark_skin_tone=1f574.1f3ff detective,sleuth_or_spy=1f575
woman_detective=1f575.fe0f.200d.2640.fe0f man_detective=1f575.fe0f.200d.2642.fe0f
detective_light_skin_tone=1f575.1f3fb woman_detective_light_skin_tone=1f575.1f3fb.200d.2640.fe0f
man_detective_light_skin_tone=1f575.1f3fb.200d.2642.fe0f
detective_medium-light_skin_tone=1f575.1f3fc
woman_detective_medium-light_skin_tone=1f575.1f3fc.200d.2640.fe0f
man_detective_medium-light_skin_tone=1f575.1f3fc.200d.2642.fe0f
detective_medium_skin_tone=1f575.1f3fd
woman_detective_medium_skin_tone=1f575.1f3fd.200d.2640.fe0f
man_detective_medium_skin_tone=1f575.1f3fd.200d.2642.fe0f
detective_medium-dark_skin_tone=1f575.1f3fe
woman_detective_medium-dark_skin_tone=1f575.1f3fe.200d.2640.fe0f
man_detective_medium-dark_skin_tone=1f575.1f3fe.200d.2642.fe0f
detective_dark_skin_tone=1f575.1f3ff woman_detective_dark_skin_tone=1f575.1f3ff.200d.2640.fe0f
man_detective_dark_skin_tone=1f575.1f3ff.200d.2642.fe0f dark_sunglasses=1f576 spider=1f577
spider_web=1f578 joystick=1f579 man_dancing=1f57a man_dancing_light_skin_tone=1f57a.1f3fb
man_dancing_medium-light_skin_tone=1f57a.1f3fc man_dancing_medium_skin_tone=1f57a.1f3fd
man_dancing_medium-dark_skin_tone=1f57a.1f3fe man_dancing_dark_skin_tone=1f57a.1f3ff
linked_paperclips=1f587 pen,lower_left_ballpoint_pen=1f58a
fountain_pen,lower_left_fountain_pen=1f58b paintbrush,lower_left_paintbrush=1f58c
crayon,lower_left_crayon=1f58d hand_with_fingers_splayed,raised_hand_with_fingers_splayed=1f590
hand_with_fingers_splayed_light_skin_tone=1f590.1f3fb
hand_with_fingers_splayed_medium-light_skin_tone=1f590.1f3fc
hand_with_fingers_splayed_medium_skin_tone=1f590.1f3fd
hand_with_fingers_splayed_medium-dark_skin_tone=1f590.1f3fe
hand_with_fingers_splayed_dark_skin_tone=1f590.1f3ff
middle_finger,reversed_hand_with_middle_finger_extended=1f595
middle_finger_light_skin_tone=1f595.1f3fb middle_finger_medium-light_skin_tone=1f595.1f3fc
middle_finger_medium_skin_tone=1f595.1f3fd middle_finger_medium-dark_skin_tone=1f595.1f3fe
middle_finger_dark_skin_tone=1f595.1f3ff
vulcan_salute,raised_hand_with_part_between_middle_and_ring_fingers=1f596
vulcan_salute_light_skin_tone=1f596.1f3fb vulcan_salute_medium-light_skin_tone=1f596.1f3fc
vulcan_salute_medium_skin_tone=1f596.1f3fd vulcan_salute_medium-dark_skin_tone=1f596.1f3fe
vulcan_salute_dark_skin_tone=1f596.1f3ff black_heart=1f5a4 desktop_computer=1f5a5 printer=1f5a8
computer_mouse,three_button_mouse=1f5b1 trackball=1f5b2 framed_picture,frame_with_picture=1f5bc
card_index_dividers=1f5c2 card_file_box=1f5c3 file_cabinet=1f5c4 wastebasket=1f5d1
spiral_notepad,spiral_note_pad=1f5d2 spiral_calendar,spiral_calendar_pad=1f5d3
clamp,compression=1f5dc old_key=1f5dd rolled-up_newspaper,rolled__up_newspaper=1f5de
dagger,dagger_knife=1f5e1 speaking_head,speaking_head_in_silhouette=1f5e3
left_speech_bubble=1f5e8 right_anger_bubble=1f5ef ballot_box_with_ballot=1f5f3 world_map=1f5fa
mount_fuji=1f5fb tokyo_tower=1f5fc statue_of_liberty=1f5fd japan,map_of_japan=1f5fe
moai,moyai=1f5ff grinning_face,grinning=1f600 beaming_face_with_smiling_eyes,grin=1f601
face_with_tears_of_joy,joy=1f602 grinning_face_with_big_eyes,smiley=1f603
grinning_face_with_smiling_eyes,smile=1f604 grinning_face_with_sweat,sweat_smile=1f605
grinning_squinting_face,laughing,satisfied=1f606 smiling_face_with_halo,innocent=1f607
smiling_face_with_horns,smiling_imp=1f608 winking_face,wink=1f609
smiling_face_with_smiling_eyes,blush=1f60a face_savoring_food,yum=1f60b
relieved_face,relieved=1f60c smiling_face_with_heart-eyes,heart_eyes=1f60d
smiling_face_with_sunglasses,sunglasses=1f60e smirking_face,smirk=1f60f neutral_face=1f610
expressionless_face,expressionless=1f611 unamused_face,unamused=1f612
downcast_face_with_sweat,sweat=1f613 pensive_face,pensive=1f614 confused_face,confused=1f615
confounded_face,confounded=1f616 kissing_face,kissing=1f617
face_blowing_a_kiss,kissing_heart=1f618
kissing_face_with_smiling_eyes,kissing_smiling_eyes=1f619
kissing_face_with_closed_eyes,kissing_closed_eyes=1f61a face_with_tongue,stuck_out_tongue=1f61b
winking_face_with_tongue,stuck_out_tongue_winking_eye=1f61c
squinting_face_with_tongue,stuck_out_tongue_closed_eyes=1f61d
disappointed_face,disappointed=1f61e worried_face,worried=1f61f angry_face,angry=1f620
pouting_face,rage=1f621 crying_face,cry=1f622 persevering_face,persevere=1f623
face_with_steam_from_nose,triumph=1f624 sad_but_relieved_face,disappointed_relieved=1f625
frowning_face_with_open_mouth,frowning=1f626 anguished_face,anguished=1f627
fearful_face,fearful=1f628 weary_face,weary=1f629 sleepy_face,sleepy=1f62a tired_face=1f62b
grimacing_face,grimacing=1f62c loudly_crying_face,sob=1f62d
face_with_open_mouth,open_mouth=1f62e hushed_face,hushed=1f62f
anxious_face_with_sweat,cold_sweat=1f630 face_screaming_in_fear,scream=1f631
astonished_face,astonished=1f632 flushed_face,flushed=1f633 sleeping_face,sleeping=1f634
dizzy_face=1f635 face_without_mouth,no_mouth=1f636 face_with_medical_mask,mask=1f637
grinning_cat_face_with_smiling_eyes,smile_cat=1f638 cat_face_with_tears_of_joy,joy_cat=1f639
grinning_cat_face,smiley_cat=1f63a smiling_cat_face_with_heart-eyes,heart_eyes_cat=1f63b
cat_face_with_wry_smile,smirk_cat=1f63c kissing_cat_face,kissing_cat=1f63d
pouting_cat_face,pouting_cat=1f63e crying_cat_face=1f63f weary_cat_face,scream_cat=1f640
slightly_frowning_face=1f641 slightly_smiling_face=1f642
upside-down_face,upside__down_face=1f643 face_with_rolling_eyes=1f644
person_gesturing_no,no_good=1f645 woman_gesturing_no=1f645.200d.2640.fe0f
man_gesturing_no=1f645.200d.2642.fe0f person_gesturing_no_light_skin_tone=1f645.1f3fb
woman_gesturing_no_light_skin_tone=1f645.1f3fb.200d.2640.fe0f
man_gesturing_no_light_skin_tone=1f645.1f3fb.200d.2642.fe0f
person_gesturing_no_medium-light_skin_tone=1f645.1f3fc
woman_gesturing_no_medium-light_skin_tone=1f645.1f3fc.200d.2640.fe0f
man_gesturing_no_medium-light_skin_tone=1f645.1f3fc.200d.2642.fe0f
person_gesturing_no_medium_skin_tone=1f645.1f3fd
woman_gesturing_no_medium_skin_tone=1f645.1f3fd.200d.2640.fe0f
man_gesturing_no_medium_skin_tone=1f645.1f3fd.200d.2642.fe0f
person_gesturing_no_medium-dark_skin_tone=1f645.1f3fe
woman_gesturing_no_medium-dark_skin_tone=1f645.1f3fe.200d.2640.fe0f
man_gesturing_no_medium-dark_skin_tone=1f645.1f3fe.200d.2642.fe0f
person_gesturing_no_dark_skin_tone=1f645.1f3ff
woman_gesturing_no_dark_skin_tone=1f645.1f3ff.200d.2640.fe0f
man_gesturing_no_dark_skin_tone=1f645.1f3ff.200d.2642.fe0f person_gesturing_ok,ok_woman=1f646
woman_gesturing_ok=1f646.200d.2640.fe0f man_gesturing_ok=1f646.200d.2642.fe0f
person_gesturing_ok_light_skin_tone=1f646.1f3fb
woman_gesturing_ok_light_skin_tone=1f646.1f3fb.200d.2640.fe0f
man_gesturing_ok_light_skin_tone=1f646.1f3fb.200d.2642.fe0f
person_gesturing_ok_medium-light_skin_tone=1f646.1f3fc
woman_gesturing_ok_medium-light_skin_tone=1f646.1f3fc.200d.2640.fe0f
man_gesturing_ok_medium-light_skin_tone=1f646.1f3fc.200d.2642.fe0f
person_gesturing_ok_medium_skin_tone=1f646.1f3fd
woman_gesturing_ok_medium_skin_tone=1f646.1f3fd.200d.2640.fe0f
man_gesturing_ok_medium_skin_tone=1f646.1f3fd.200d.2642.fe0f
person_gesturing_ok_medium-dark_skin_tone=1f646.1f3fe
woman_gesturing_ok_medium-dark_skin_tone=1f646.1f3fe.200d.2640.fe0f
man_gesturing_ok_medium-dark_skin_tone=1f646.1f3fe.200d.2642.fe0f
person_gesturing_ok_dark_skin_tone=1f646.1f3ff
woman_gesturing_ok_dark_skin_tone=1f646.1f3ff.200d.2640.fe0f
man_gesturing_ok_dark_skin_tone=1f646.1f3ff.200d.2642.fe0f person_bowing,bow=1f647
woman_bowing=1f647.200d.2640.fe0f man_bowing=1f647.200d.2642.fe0f
person_bowing_light_skin_tone=1f647.1f3fb
woman_bowing_light_skin_tone=1f647.1f3fb.200d.2640.fe0f
man_bowing_light_skin_tone=1f647.1f3fb.200d.2642.fe0f
person_bowing_medium-light_skin_tone=1f647.1f3fc
woman_bowing_medium-light_skin_tone=1f647.1f3fc.200d.2640.fe0f
man_bowing_medium-light_skin_tone=1f647.1f3fc.200d.2642.fe0f
person_bowing_medium_skin_tone=1f647.1f3fd
woman_bowing_medium_skin_tone=1f647.1f3fd.200d.2640.fe0f
man_bowing_medium_skin_tone=1f647.1f3fd.200d.2642.fe0f
person_bowing_medium-dark_skin_tone=1f647.1f3fe
woman_bowing_medium-dark_skin_tone=1f647.1f3fe.200d.2640.fe0f
man_bowing_medium-dark_skin_tone=1f647.1f3fe.200d.2642.fe0f
person_bowing_dark_skin_tone=1f647.1f3ff woman_bowing_dark_skin_tone=1f647.1f3ff.200d.2640.fe0f
man_bowing_dark_skin_tone=1f647.1f3ff.200d.2642.fe0f see-no-evil_monkey,see_no_evil=1f648
hear-no-evil_monkey,hear_no_evil=1f649 speak-no-evil_monkey,speak_no_evil=1f64a
person_raising_hand,raising_hand=1f64b woman_raising_hand=1f64b.200d.2640.fe0f
man_raising_hand=1f64b.200d.2642.fe0f person_raising_hand_light_skin_tone=1f64b.1f3fb
woman_raising_hand_light_skin_tone=1f64b.1f3fb.200d.2640.fe0f
man_raising_hand_light_skin_tone=1f64b.1f3fb.200d.2642.fe0f
person_raising_hand_medium-light_skin_tone=1f64b.1f3fc
woman_raising_hand_medium-light_skin_tone=1f64b.1f3fc.200d.2640.fe0f
man_raising_hand_medium-light_skin_tone=1f64b.1f3fc.200d.2642.fe0f
person_raising_hand_medium_skin_tone=1f64b.1f3fd
woman_raising_hand_medium_skin_tone=1f64b.1f3fd.200d.2640.fe0f
man_raising_hand_medium_skin_tone=1f64b.1f3fd.200d.2642.fe0f
person_raising_hand_medium-dark_skin_tone=1f64b.1f3fe
woman_raising_hand_medium-dark_skin_tone=1f64b.1f3fe.200d.2640.fe0f
man_raising_hand_medium-dark_skin_tone=1f64b.1f3fe.200d.2642.fe0f
person_raising_hand_dark_skin_tone=1f64b.1f3ff
woman_raising_hand_dark_skin_tone=1f64b.1f3ff.200d.2640.fe0f
man_raising_hand_dark_skin_tone=1f64b.1f3ff.200d.2642.fe0f raising_hands,raised_hands=1f64c
raising_hands_light_skin_tone=1f64c.1f3fb raising_hands_medium-light_skin_tone=1f64c.1f3fc
raising_hands_medium_skin_tone=1f64c.1f3fd raising_hands_medium-dark_skin_tone=1f64c.1f3fe
raising_hands_dark_skin_tone=1f64c.1f3ff person_frowning=1f64d
woman_frowning=1f64d.200d.2640.fe0f man_frowning=1f64d.200d.2642.fe0f
person_frowning_light_skin_tone=1f64d.1f3fb
woman_frowning_light_skin_tone=1f64d.1f3fb.200d.2640.fe0f
man_frowning_light_skin_tone=1f64d.1f3fb.200d.2642.fe0f
person_frowning_medium-light_skin_tone=1f64d.1f3fc
woman_frowning_medium-light_skin_tone=1f64d.1f3fc.200d.2640.fe0f
man_frowning_medium-light_skin_tone=1f64d.1f3fc.200d.2642.fe0f
person_frowning_medium_skin_tone=1f64d.1f3fd
woman_frowning_medium_skin_tone=1f64d.1f3fd.200d.2640.fe0f
man_frowning_medium_skin_tone=1f64d.1f3fd.200d.2642.fe0f
person_frowning_medium-dark_skin_tone=1f64d.1f3fe
woman_frowning_medium-dark_skin_tone=1f64d.1f3fe.200d.2640.fe0f
man_frowning_medium-dark_skin_tone=1f64d.1f3fe.200d.2642.fe0f
person_frowning_dark_skin_tone=1f64d.1f3ff
woman_frowning_dark_skin_tone=1f64d.1f3ff.200d.2640.fe0f
man_frowning_dark_skin_tone=1f64d.1f3ff.200d.2642.fe0f
person_pouting,person_with_pouting_face=1f64e woman_pouting=1f64e.200d.2640.fe0f
man_pouting=1f64e.200d.2642.fe0f person_pouting_light_skin_tone=1f64e.1f3fb
woman_pouting_light_skin_tone=1f64e.1f3fb.200d.2640.fe0f
man_pouting_light_skin_tone=1f64e.1f3fb.200d.2642.fe0f
person_pouting_medium-light_skin_tone=1f64e.1f3fc
woman_pouting_medium-light_skin_tone=1f64e.1f3fc.200d.2640.fe0f
man_pouting_medium-light_skin_tone=1f64e.1f3fc.200d.2642.fe0f
person_pouting_medium_skin_tone=1f64e.1f3fd
woman_pouting_medium_skin_tone=1f64e.1f3fd.200d.2640.fe0f
man_pouting_medium_skin_tone=1f64e.1f3fd.200d.2642.fe0f
person_pouting_medium-dark_skin_tone=1f64e.1f3fe
woman_pouting_medium-dark_skin_tone=1f64e.1f3fe.200d.2640.fe0f
man_pouting_medium-dark_skin_tone=1f64e.1f3fe.200d.2642.fe0f
person_pouting_dark_skin_tone=1f64e.1f3ff
woman_pouting_dark_skin_tone=1f64e.1f3ff.200d.2640.fe0f
man_pouting_dark_skin_tone=1f64e.1f3ff.200d.2642.fe0f folded_hands,pray=1f64f
folded_hands_light_skin_tone=1f64f.1f3fb folded_hands_medium-light_skin_tone=1f64f.1f3fc
folded_hands_medium_skin_tone=1f64f.1f3fd folded_hands_medium-dark_skin_tone=1f64f.1f3fe
folded_hands_dark_skin_tone=1f64f.1f3ff rocket=1f680 helicopter=1f681
locomotive,steam_locomotive=1f682 railway_car=1f683 high-speed_train,bullettrain_side=1f684
bullet_train,bullettrain_front=1f685 train2=1f686 metro=1f687 light_rail=1f688 station=1f689
tram=1f68a train,tram_car=1f68b bus=1f68c oncoming_bus=1f68d trolleybus=1f68e
bus_stop,busstop=1f68f minibus=1f690 ambulance=1f691 fire_engine=1f692 police_car=1f693
oncoming_police_car=1f694 taxi=1f695 oncoming_taxi=1f696 automobile,car,red_car=1f697
oncoming_automobile=1f698 sport_utility_vehicle,blue_car=1f699 delivery_truck,truck=1f69a
articulated_lorry=1f69b tractor=1f69c monorail=1f69d mountain_railway=1f69e
suspension_railway=1f69f mountain_cableway=1f6a0 aerial_tramway=1f6a1 ship=1f6a2
person_rowing_boat,rowboat=1f6a3 woman_rowing_boat=1f6a3.200d.2640.fe0f
man_rowing_boat=1f6a3.200d.2642.fe0f person_rowing_boat_light_skin_tone=1f6a3.1f3fb
woman_rowing_boat_light_skin_tone=1f6a3.1f3fb.200d.2640.fe0f
man_rowing_boat_light_skin_tone=1f6a3.1f3fb.200d.2642.fe0f
person_rowing_boat_medium-light_skin_tone=1f6a3.1f3fc
woman_rowing_boat_medium-light_skin_tone=1f6a3.1f3fc.200d.2640.fe0f
man_rowing_boat_medium-light_skin_tone=1f6a3.1f3fc.200d.2642.fe0f
person_rowing_boat_medium_skin_tone=1f6a3.1f3fd
woman_rowing_boat_medium_skin_tone=1f6a3.1f3fd.200d.2640.fe0f
man_rowing_boat_medium_skin_tone=1f6a3.1f3fd.200d.2642.fe0f
person_rowing_boat_medium-dark_skin_tone=1f6a3.1f3fe
woman_rowing_boat_medium-dark_skin_tone=1f6a3.1f3fe.200d.2640.fe0f
man_rowing_boat_medium-dark_skin_tone=1f6a3.1f3fe.200d.2642.fe0f
person_rowing_boat_dark_skin_tone=1f6a3.1f3ff
woman_rowing_boat_dark_skin_tone=1f6a3.1f3ff.200d.2640.fe0f
man_rowing_boat_dark_skin_tone=1f6a3.1f3ff.200d.2642.fe0f speedboat=1f6a4
horizontal_traffic_light,traffic_light=1f6a5 vertical_traffic_light=1f6a6 construction=1f6a7
police_car_light,rotating_light=1f6a8 triangular_flag,triangular_flag_on_post=1f6a9 door=1f6aa
prohibited,no_entry_sign=1f6ab cigarette,smoking=1f6ac no_smoking=1f6ad
litter_in_bin_sign,put_litter_in_its_place=1f6ae no_littering,do_not_litter=1f6af
potable_water=1f6b0 non-potable_water,non__potable_water=1f6b1 bicycle,bike=1f6b2
no_bicycles=1f6b3 person_biking,bicyclist=1f6b4 woman_biking=1f6b4.200d.2640.fe0f
man_biking=1f6b4.200d.2642.fe0f person_biking_light_skin_tone=1f6b4.1f3fb
woman_biking_light_skin_tone=1f6b4.1f3fb.200d.2640.fe0f
man_biking_light_skin_tone=1f6b4.1f3fb.200d.2642.fe0f
person_biking_medium-light_skin_tone=1f6b4.1f3fc
woman_biking_medium-light_skin_tone=1f6b4.1f3fc.200d.2640.fe0f
man_biking_medium-light_skin_tone=1f6b4.1f3fc.200d.2642.fe0f
person_biking_medium_skin_tone=1f6b4.1f3fd
woman_biking_medium_skin_tone=1f6b4.1f3fd.200d.2640.fe0f
man_biking_medium_skin_tone=1f6b4.1f3fd.200d.2642.fe0f
person_biking_medium-dark_skin_tone=1f6b4.1f3fe
woman_biking_medium-dark_skin_tone=1f6b4.1f3fe.200d.2640.fe0f
man_biking_medium-dark_skin_tone=1f6b4.1f3fe.200d.2642.fe0f
person_biking_dark_skin_tone=1f6b4.1f3ff woman_biking_dark_skin_tone=1f6b4.1f3ff.200d.2640.fe0f
man_biking_dark_skin_tone=1f6b4.1f3ff.200d.2642.fe0f
person_mountain_biking,mountain_bicyclist=1f6b5 woman_mountain_biking=1f6b5.200d.2640.fe0f
man_mountain_biking=1f6b5.200d.2642.fe0f person_mountain_biking_light_skin_tone=1f6b5.1f3fb
woman_mountain_biking_light_skin_tone=1f6b5.1f3fb.200d.2640.fe0f
man_mountain_biking_light_skin_tone=1f6b5.1f3fb.200d.2642.fe0f
person_mountain_biking_medium-light_skin_tone=1f6b5.1f3fc
woman_mountain_biking_medium-light_skin_tone=1f6b5.1f3fc.200d.2640.fe0f
man_mountain_biking_medium-light_skin_tone=1f6b5.1f3fc.200d.2642.fe0f
person_mountain_biking_medium_skin_tone=1f6b5.1f3fd
woman_mountain_biking_medium_skin_tone=1f6b5.1f3fd.200d.2640.fe0f
man_mountain_biking_medium_skin_tone=1f6b5.1f3fd.200d.2642.fe0f
person_mountain_biking_medium-dark_skin_tone=1f6b5.1f3fe
woman_mountain_biking_medium-dark_skin_tone=1f6b5.1f3fe.200d.2640.fe0f
man_mountain_biking_medium-dark_skin_tone=1f6b5.1f3fe.200d.2642.fe0f
person_mountain_biking_dark_skin_tone=1f6b5.1f3ff
woman_mountain_biking_dark_skin_tone=1f6b5.1f3ff.200d.2640.fe0f
man_mountain_biking_dark_skin_tone=1f6b5.1f3ff.200d.2642.fe0f person_walking,walking=1f6b6
woman_walking=1f6b6.200d.2640.fe0f man_walking=1f6b6.200d.2642.fe0f
person_walking_light_skin_tone=1f6b6.1f3fb
woman_walking_light_skin_tone=1f6b6.1f3fb.200d.2640.fe0f
man_walking_light_skin_tone=1f6b6.1f3fb.200d.2642.fe0f
person_walking_medium-light_skin_tone=1f6b6.1f3fc
woman_walking_medium-light_skin_tone=1f6b6.1f3fc.200d.2640.fe0f
man_walking_medium-light_skin_tone=1f6b6.1f3fc.200d.2642.fe0f
person_walking_medium_skin_tone=1f6b6.1f3fd
woman_walking_medium_skin_tone=1f6b6.1f3fd.200d.2640.fe0f
man_walking_medium_skin_tone=1f6b6.1f3fd.200d.2642.fe0f
person_walking_medium-dark_skin_tone=1f6b6.1f3fe
woman_walking_medium-dark_skin_tone=1f6b6.1f3fe.200d.2640.fe0f
man_walking_medium-dark_skin_tone=1f6b6.1f3fe.200d.2642.fe0f
person_walking_dark_skin_tone=1f6b6.1f3ff
woman_walking_dark_skin_tone=1f6b6.1f3ff.200d.2640.fe0f
man_walking_dark_skin_tone=1f6b6.1f3ff.200d.2642.fe0f no_pedestrians=1f6b7
children_crossing=1f6b8 men’s_room,mens=1f6b9 women’s_room,womens=1f6ba restroom=1f6bb
baby_symbol=1f6bc toilet=1f6bd water_closet,wc=1f6be shower=1f6bf person_taking_bath,bath=1f6c0
person_taking_bath_light_skin_tone=1f6c0.1f3fb
person_taking_bath_medium-light_skin_tone=1f6c0.1f3fc
person_taking_bath_medium_skin_tone=1f6c0.1f3fd
person_taking_bath_medium-dark_skin_tone=1f6c0.1f3fe
person_taking_bath_dark_skin_tone=1f6c0.1f3ff bathtub=1f6c1 passport_control=1f6c2 customs=1f6c3
baggage_claim=1f6c4 left_luggage=1f6c5 couch_and_lamp=1f6cb
person_in_bed,sleeping_accommodation=1f6cc person_in_bed_light_skin_tone=1f6cc.1f3fb
person_in_bed_medium-light_skin_tone=1f6cc.1f3fc person_in_bed_medium_skin_tone=1f6cc.1f3fd
person_in_bed_medium-dark_skin_tone=1f6cc.1f3fe person_in_bed_dark_skin_tone=1f6cc.1f3ff
shopping_bags=1f6cd bellhop_bell=1f6ce bed=1f6cf place_of_worship=1f6d0 stop_sign=1f6d1
shopping_cart=1f6d2 hindu_temple=1f6d5 hammer_and_wrench=1f6e0 shield=1f6e1 oil_drum=1f6e2
motorway=1f6e3 railway_track=1f6e4 motor_boat=1f6e5 small_airplane=1f6e9
airplane_departure=1f6eb airplane_arrival,airplane_arriving=1f6ec passenger_ship=1f6f3
kick_scooter=1f6f4 motor_scooter=1f6f5 canoe=1f6f6 sled=1f6f7 flying_saucer=1f6f8
skateboard=1f6f9 auto_rickshaw=1f6fa orange_circle=1f7e0 yellow_circle=1f7e1 green_circle=1f7e2
purple_circle=1f7e3 brown_circle=1f7e4 red_square=1f7e5 blue_square=1f7e6 orange_square=1f7e7
yellow_square=1f7e8 green_square=1f7e9 purple_square=1f7ea brown_square=1f7eb white_heart=1f90d
brown_heart=1f90e pinching_hand=1f90f zipper-mouth_face,zipper__mouth_face=1f910
money-mouth_face,money__mouth_face=1f911 face_with_thermometer=1f912 nerd_face=1f913
thinking_face=1f914 face_with_head-bandage,face_with_head__bandage=1f915 robot_face,robot=1f916
hugging_face=1f917 sign_of_the_horns=1f918 sign_of_the_horns_light_skin_tone=1f918.1f3fb
sign_of_the_horns_medium-light_skin_tone=1f918.1f3fc
sign_of_the_horns_medium_skin_tone=1f918.1f3fd
sign_of_the_horns_medium-dark_skin_tone=1f918.1f3fe sign_of_the_horns_dark_skin_tone=1f918.1f3ff
call_me_hand=1f919 call_me_hand_light_skin_tone=1f919.1f3fb
call_me_hand_medium-light_skin_tone=1f919.1f3fc call_me_hand_medium_skin_tone=1f919.1f3fd
call_me_hand_medium-dark_skin_tone=1f919.1f3fe call_me_hand_dark_skin_tone=1f919.1f3ff
raised_back_of_hand=1f91a raised_back_of_hand_light_skin_tone=1f91a.1f3fb
raised_back_of_hand_medium-light_skin_tone=1f91a.1f3fc
raised_back_of_hand_medium_skin_tone=1f91a.1f3fd
raised_back_of_hand_medium-dark_skin_tone=1f91a.1f3fe
raised_back_of_hand_dark_skin_tone=1f91a.1f3ff left-facing_fist=1f91b
left-facing_fist_light_skin_tone=1f91b.1f3fb left-facing_fist_medium-light_skin_tone=1f91b.1f3fc
left-facing_fist_medium_skin_tone=1f91b.1f3fd left-facing_fist_medium-dark_skin_tone=1f91b.1f3fe
left-facing_fist_dark_skin_tone=1f91b.1f3ff right-facing_fist=1f91c
right-facing_fist_light_skin_tone=1f91c.1f3fb
right-facing_fist_medium-light_skin_tone=1f91c.1f3fc
right-facing_fist_medium_skin_tone=1f91c.1f3fd
right-facing_fist_medium-dark_skin_tone=1f91c.1f3fe right-facing_fist_dark_skin_tone=1f91c.1f3ff
handshake=1f91d crossed_fingers=1f91e crossed_fingers_light_skin_tone=1f91e.1f3fb
crossed_fingers_medium-light_skin_tone=1f91e.1f3fc crossed_fingers_medium_skin_tone=1f91e.1f3fd
crossed_fingers_medium-dark_skin_tone=1f91e.1f3fe crossed_fingers_dark_skin_tone=1f91e.1f3ff
love-you_gesture=1f91f love-you_gesture_light_skin_tone=1f91f.1f3fb
love-you_gesture_medium-light_skin_tone=1f91f.1f3fc
love-you_gesture_medium_skin_tone=1f91f.1f3fd love-you_gesture_medium-dark_skin_tone=1f91f.1f3fe
love-you_gesture_dark_skin_tone=1f91f.1f3ff cowboy_hat_face=1f920 clown_face=1f921
nauseated_face=1f922 rolling_on_the_floor_laughing=1f923 drooling_face=1f924 lying_face=1f925
person_facepalming=1f926 woman_facepalming=1f926.200d.2640.fe0f
man_facepalming=1f926.200d.2642.fe0f person_facepalming_light_skin_tone=1f926.1f3fb
woman_facepalming_light_skin_tone=1f926.1f3fb.200d.2640.fe0f
man_facepalming_light_skin_tone=1f926.1f3fb.200d.2642.fe0f
person_facepalming_medium-light_skin_tone=1f926.1f3fc
woman_facepalming_medium-light_skin_tone=1f926.1f3fc.200d.2640.fe0f
man_facepalming_medium-light_skin_tone=1f926.1f3fc.200d.2642.fe0f
person_facepalming_medium_skin_tone=1f926.1f3fd
woman_facepalming_medium_skin_tone=1f926.1f3fd.200d.2640.fe0f
man_facepalming_medium_skin_tone=1f926.1f3fd.200d.2642.fe0f
person_facepalming_medium-dark_skin_tone=1f926.1f3fe
woman_facepalming_medium-dark_skin_tone=1f926.1f3fe.200d.2640.fe0f
man_facepalming_medium-dark_skin_tone=1f926.1f3fe.200d.2642.fe0f
person_facepalming_dark_skin_tone=1f926.1f3ff
woman_facepalming_dark_skin_tone=1f926.1f3ff.200d.2640.fe0f
man_facepalming_dark_skin_tone=1f926.1f3ff.200d.2642.fe0f sneezing_face=1f927
face_with_raised_eyebrow=1f928 star-struck=1f929 zany_face=1f92a shushing_face=1f92b
face_with_symbols_on_mouth=1f92c face_with_hand_over_mouth=1f92d face_vomiting=1f92e
exploding_head=1f92f pregnant_woman=1f930 pregnant_woman_light_skin_tone=1f930.1f3fb
pregnant_woman_medium-light_skin_tone=1f930.1f3fc pregnant_woman_medium_skin_tone=1f930.1f3fd
pregnant_woman_medium-dark_skin_tone=1f930.1f3fe pregnant_woman_dark_skin_tone=1f930.1f3ff
breast-feeding=1f931 breast-feeding_light_skin_tone=1f931.1f3fb
breast-feeding_medium-light_skin_tone=1f931.1f3fc breast-feeding_medium_skin_tone=1f931.1f3fd
breast-feeding_medium-dark_skin_tone=1f931.1f3fe breast-feeding_dark_skin_tone=1f931.1f3ff
palms_up_together=1f932 palms_up_together_light_skin_tone=1f932.1f3fb
palms_up_together_medium-light_skin_tone=1f932.1f3fc
palms_up_together_medium_skin_tone=1f932.1f3fd
palms_up_together_medium-dark_skin_tone=1f932.1f3fe palms_up_together_dark_skin_tone=1f932.1f3ff
selfie=1f933 selfie_light_skin_tone=1f933.1f3fb selfie_medium-light_skin_tone=1f933.1f3fc
selfie_medium_skin_tone=1f933.1f3fd selfie_medium-dark_skin_tone=1f933.1f3fe
selfie_dark_skin_tone=1f933.1f3ff prince=1f934 prince_light_skin_tone=1f934.1f3fb
prince_medium-light_skin_tone=1f934.1f3fc prince_medium_skin_tone=1f934.1f3fd
prince_medium-dark_skin_tone=1f934.1f3fe prince_dark_skin_tone=1f934.1f3ff man_in_tuxedo=1f935
man_in_tuxedo_light_skin_tone=1f935.1f3fb man_in_tuxedo_medium-light_skin_tone=1f935.1f3fc
man_in_tuxedo_medium_skin_tone=1f935.1f3fd man_in_tuxedo_medium-dark_skin_tone=1f935.1f3fe
man_in_tuxedo_dark_skin_tone=1f935.1f3ff mrs._claus=1f936 mrs._claus_light_skin_tone=1f936.1f3fb
mrs._claus_medium-light_skin_tone=1f936.1f3fc mrs._claus_medium_skin_tone=1f936.1f3fd
mrs._claus_medium-dark_skin_tone=1f936.1f3fe mrs._claus_dark_skin_tone=1f936.1f3ff
person_shrugging=1f937 woman_shrugging=1f937.200d.2640.fe0f man_shrugging=1f937.200d.2642.fe0f
person_shrugging_light_skin_tone=1f937.1f3fb
woman_shrugging_light_skin_tone=1f937.1f3fb.200d.2640.fe0f
man_shrugging_light_skin_tone=1f937.1f3fb.200d.2642.fe0f
person_shrugging_medium-light_skin_tone=1f937.1f3fc
woman_shrugging_medium-light_skin_tone=1f937.1f3fc.200d.2640.fe0f
man_shrugging_medium-light_skin_tone=1f937.1f3fc.200d.2642.fe0f
person_shrugging_medium_skin_tone=1f937.1f3fd
woman_shrugging_medium_skin_tone=1f937.1f3fd.200d.2640.fe0f
man_shrugging_medium_skin_tone=1f937.1f3fd.200d.2642.fe0f
person_shrugging_medium-dark_skin_tone=1f937.1f3fe
woman_shrugging_medium-dark_skin_tone=1f937.1f3fe.200d.2640.fe0f
man_shrugging_medium-dark_skin_tone=1f937.1f3fe.200d.2642.fe0f
person_shrugging_dark_skin_tone=1f937.1f3ff
woman_shrugging_dark_skin_tone=1f937.1f3ff.200d.2640.fe0f
man_shrugging_dark_skin_tone=1f937.1f3ff.200d.2642.fe0f person_cartwheeling=1f938
woman_cartwheeling=1f938.200d.2640.fe0f man_cartwheeling=1f938.200d.2642.fe0f
person_cartwheeling_light_skin_tone=1f938.1f3fb
woman_cartwheeling_light_skin_tone=1f938.1f3fb.200d.2640.fe0f
man_cartwheeling_light_skin_tone=1f938.1f3fb.200d.2642.fe0f
person_cartwheeling_medium-light_skin_tone=1f938.1f3fc
woman_cartwheeling_medium-light_skin_tone=1f938.1f3fc.200d.2640.fe0f
man_cartwheeling_medium-light_skin_tone=1f938.1f3fc.200d.2642.fe0f
person_cartwheeling_medium_skin_tone=1f938.1f3fd
woman_cartwheeling_medium_skin_tone=1f938.1f3fd.200d.2640.fe0f
man_cartwheeling_medium_skin_tone=1f938.1f3fd.200d.2642.fe0f
person_cartwheeling_medium-dark_skin_tone=1f938.1f3fe
woman_cartwheeling_medium-dark_skin_tone=1f938.1f3fe.200d.2640.fe0f
man_cartwheeling_medium-dark_skin_tone=1f938.1f3fe.200d.2642.fe0f
person_cartwheeling_dark_skin_tone=1f938.1f3ff
woman_cartwheeling_dark_skin_tone=1f938.1f3ff.200d.2640.fe0f
man_cartwheeling_dark_skin_tone=1f938.1f3ff.200d.2642.fe0f person_juggling=1f939
woman_juggling=1f939.200d.2640.fe0f man_juggling=1f939.200d.2642.fe0f
person_juggling_light_skin_tone=1f939.1f3fb
woman_juggling_light_skin_tone=1f939.1f3fb.200d.2640.fe0f
man_juggling_light_skin_tone=1f939.1f3fb.200d.2642.fe0f
person_juggling_medium-light_skin_tone=1f939.1f3fc
woman_juggling_medium-light_skin_tone=1f939.1f3fc.200d.2640.fe0f
man_juggling_medium-light_skin_tone=1f939.1f3fc.200d.2642.fe0f
person_juggling_medium_skin_tone=1f939.1f3fd
woman_juggling_medium_skin_tone=1f939.1f3fd.200d.2640.fe0f
man_juggling_medium_skin_tone=1f939.1f3fd.200d.2642.fe0f
person_juggling_medium-dark_skin_tone=1f939.1f3fe
woman_juggling_medium-dark_skin_tone=1f939.1f3fe.200d.2640.fe0f
man_juggling_medium-dark_skin_tone=1f939.1f3fe.200d.2642.fe0f
person_juggling_dark_skin_tone=1f939.1f3ff
woman_juggling_dark_skin_tone=1f939.1f3ff.200d.2640.fe0f
man_juggling_dark_skin_tone=1f939.1f3ff.200d.2642.fe0f person_fencing=1f93a
people_wrestling=1f93c women_wrestling=1f93c.200d.2640.fe0f men_wrestling=1f93c.200d.2642.fe0f
person_playing_water_polo=1f93d woman_playing_water_polo=1f93d.200d.2640.fe0f
man_playing_water_polo=1f93d.200d.2642.fe0f
person_playing_water_polo_light_skin_tone=1f93d.1f3fb
woman_playing_water_polo_light_skin_tone=1f93d.1f3fb.200d.2640.fe0f
man_playing_water_polo_light_skin_tone=1f93d.1f3fb.200d.2642.fe0f
person_playing_water_polo_medium-light_skin_tone=1f93d.1f3fc
woman_playing_water_polo_medium-light_skin_tone=1f93d.1f3fc.200d.2640.fe0f
man_playing_water_polo_medium-light_skin_tone=1f93d.1f3fc.200d.2642.fe0f
person_playing_water_polo_medium_skin_tone=1f93d.1f3fd
woman_playing_water_polo_medium_skin_tone=1f93d.1f3fd.200d.2640.fe0f
man_playing_water_polo_medium_skin_tone=1f93d.1f3fd.200d.2642.fe0f
person_playing_water_polo_medium-dark_skin_tone=1f93d.1f3fe
woman_playing_water_polo_medium-dark_skin_tone=1f93d.1f3fe.200d.2640.fe0f
man_playing_water_polo_medium-dark_skin_tone=1f93d.1f3fe.200d.2642.fe0f
person_playing_water_polo_dark_skin_tone=1f93d.1f3ff
woman_playing_water_polo_dark_skin_tone=1f93d.1f3ff.200d.2640.fe0f
man_playing_water_polo_dark_skin_tone=1f93d.1f3ff.200d.2642.fe0f person_playing_handball=1f93e
woman_playing_handball=1f93e.200d.2640.fe0f man_playing_handball=1f93e.200d.2642.fe0f
person_playing_handball_light_skin_tone=1f93e.1f3fb
woman_playing_handball_light_skin_tone=1f93e.1f3fb.200d.2640.fe0f
man_playing_handball_light_skin_tone=1f93e.1f3fb.200d.2642.fe0f
person_playing_handball_medium-light_skin_tone=1f93e.1f3fc
woman_playing_handball_medium-light_skin_tone=1f93e.1f3fc.200d.2640.fe0f
man_playing_handball_medium-light_skin_tone=1f93e.1f3fc.200d.2642.fe0f
person_playing_handball_medium_skin_tone=1f93e.1f3fd
woman_playing_handball_medium_skin_tone=1f93e.1f3fd.200d.2640.fe0f
man_playing_handball_medium_skin_tone=1f93e.1f3fd.200d.2642.fe0f
person_playing_handball_medium-dark_skin_tone=1f93e.1f3fe
woman_playing_handball_medium-dark_skin_tone=1f93e.1f3fe.200d.2640.fe0f
man_playing_handball_medium-dark_skin_tone=1f93e.1f3fe.200d.2642.fe0f
person_playing_handball_dark_skin_tone=1f93e.1f3ff
woman_playing_handball_dark_skin_tone=1f93e.1f3ff.200d.2640.fe0f
man_playing_handball_dark_skin_tone=1f93e.1f3ff.200d.2642.fe0f diving_mask=1f93f
wilted_flower=1f940 drum=1f941 clinking_glasses=1f942 tumbler_glass=1f943 spoon=1f944
goal_net=1f945 1st_place_medal=1f947 2nd_place_medal=1f948 3rd_place_medal=1f949
boxing_glove=1f94a martial_arts_uniform=1f94b curling_stone=1f94c lacrosse=1f94d softball=1f94e
flying_disc=1f94f croissant=1f950 avocado=1f951 cucumber=1f952 bacon=1f953 potato=1f954
carrot=1f955 baguette_bread=1f956 green_salad=1f957 shallow_pan_of_food=1f958
stuffed_flatbread=1f959 glass_of_milk=1f95b peanuts=1f95c kiwi_fruit=1f95d pancakes=1f95e
dumpling=1f95f fortune_cookie=1f960 takeout_box=1f961 chopsticks=1f962 bowl_with_spoon=1f963
cup_with_straw=1f964 coconut=1f965 broccoli=1f966 pie=1f967 pretzel=1f968 cut_of_meat=1f969
sandwich=1f96a canned_food=1f96b leafy_green=1f96c mango=1f96d moon_cake=1f96e bagel=1f96f
smiling_face_with_3_hearts=1f970 yawning_face=1f971 partying_face=1f973 woozy_face=1f974
hot_face=1f975 cold_face=1f976 pleading_face=1f97a sari=1f97b lab_coat=1f97c goggles=1f97d
hiking_boot=1f97e flat_shoe=1f97f crab=1f980 lion_face=1f981 scorpion=1f982 turkey=1f983
unicorn_face=1f984 eagle=1f985 duck=1f986 bat=1f987 shark=1f988 owl=1f989 fox_face=1f98a
butterfly=1f98b deer=1f98c gorilla=1f98d lizard=1f98e rhinoceros=1f98f shrimp=1f990 squid=1f991
giraffe=1f992 zebra=1f993 hedgehog=1f994 sauropod=1f995 t-rex=1f996 cricket=1f997 kangaroo=1f998
llama=1f999 peacock=1f99a hippopotamus=1f99b parrot=1f99c raccoon=1f99d lobster=1f99e
mosquito=1f99f microbe=1f9a0 badger=1f9a1 swan=1f9a2 sloth=1f9a5 otter=1f9a6 orangutan=1f9a7
skunk=1f9a8 flamingo=1f9a9 oyster=1f9aa guide_dog=1f9ae probing_cane=1f9af red_hair=1f9b0
curly_hair=1f9b1 bald=1f9b2 white_hair=1f9b3 bone=1f9b4 leg=1f9b5 foot=1f9b6 tooth=1f9b7
superhero=1f9b8 supervillain=1f9b9 safety_vest=1f9ba ear_with_hearing_aid=1f9bb
motorized_wheelchair=1f9bc manual_wheelchair=1f9bd mechanical_arm=1f9be mechanical_leg=1f9bf
cheese_wedge=1f9c0 cupcake=1f9c1 salt=1f9c2 beverage_box=1f9c3 garlic=1f9c4 onion=1f9c5
falafel=1f9c6 waffle=1f9c7 butter=1f9c8 mate=1f9c9 ice=1f9ca person_standing=1f9cd
person_kneeling=1f9ce deaf_person=1f9cf face_with_monocle=1f9d0 adult=1f9d1
people_holding_hands=1f9d1.200d.1f91d.200d.1f9d1 adult_light_skin_tone=1f9d1.1f3fb
adult_medium-light_skin_tone=1f9d1.1f3fc adult_medium_skin_tone=1f9d1.1f3fd
adult_medium-dark_skin_tone=1f9d1.1f3fe adult_dark_skin_tone=1f9d1.1f3ff child=1f9d2
child_light_skin_tone=1f9d2.1f3fb child_medium-light_skin_tone=1f9d2.1f3fc
child_medium_skin_tone=1f9d2.1f3fd child_medium-dark_skin_tone=1f9d2.1f3fe
child_dark_skin_tone=1f9d2.1f3ff older_adult=1f9d3 older_adult_light_skin_tone=1f9d3.1f3fb
older_adult_medium-light_skin_tone=1f9d3.1f3fc older_adult_medium_skin_tone=1f9d3.1f3fd
older_adult_medium-dark_skin_tone=1f9d3.1f3fe older_adult_dark_skin_tone=1f9d3.1f3ff
bearded_person=1f9d4 bearded_person_light_skin_tone=1f9d4.1f3fb
bearded_person_medium-light_skin_tone=1f9d4.1f3fc bearded_person_medium_skin_tone=1f9d4.1f3fd
bearded_person_medium-dark_skin_tone=1f9d4.1f3fe bearded_person_dark_skin_tone=1f9d4.1f3ff
woman_with_headscarf=1f9d5 woman_with_headscarf_light_skin_tone=1f9d5.1f3fb
woman_with_headscarf_medium-light_skin_tone=1f9d5.1f3fc
woman_with_headscarf_medium_skin_tone=1f9d5.1f3fd
woman_with_headscarf_medium-dark_skin_tone=1f9d5.1f3fe
woman_with_headscarf_dark_skin_tone=1f9d5.1f3ff person_in_steamy_room=1f9d6
woman_in_steamy_room=1f9d6.200d.2640.fe0f man_in_steamy_room=1f9d6.200d.2642.fe0f
person_in_steamy_room_light_skin_tone=1f9d6.1f3fb
woman_in_steamy_room_light_skin_tone=1f9d6.1f3fb.200d.2640.fe0f
man_in_steamy_room_light_skin_tone=1f9d6.1f3fb.200d.2642.fe0f
person_in_steamy_room_medium-light_skin_tone=1f9d6.1f3fc
woman_in_steamy_room_medium-light_skin_tone=1f9d6.1f3fc.200d.2640.fe0f
man_in_steamy_room_medium-light_skin_tone=1f9d6.1f3fc.200d.2642.fe0f
person_in_steamy_room_medium_skin_tone=1f9d6.1f3fd
woman_in_steamy_room_medium_skin_tone=1f9d6.1f3fd.200d.2640.fe0f
man_in_steamy_room_medium_skin_tone=1f9d6.1f3fd.200d.2642.fe0f
person_in_steamy_room_medium-dark_skin_tone=1f9d6.1f3fe
woman_in_steamy_room_medium-dark_skin_tone=1f9d6.1f3fe.200d.2640.fe0f
man_in_steamy_room_medium-dark_skin_tone=1f9d6.1f3fe.200d.2642.fe0f
person_in_steamy_room_dark_skin_tone=1f9d6.1f3ff
woman_in_steamy_room_dark_skin_tone=1f9d6.1f3ff.200d.2640.fe0f
man_in_steamy_room_dark_skin_tone=1f9d6.1f3ff.200d.2642.fe0f person_climbing=1f9d7
woman_climbing=1f9d7.200d.2640.fe0f man_climbing=1f9d7.200d.2642.fe0f
person_climbing_light_skin_tone=1f9d7.1f3fb
woman_climbing_light_skin_tone=1f9d7.1f3fb.200d.2640.fe0f
man_climbing_light_skin_tone=1f9d7.1f3fb.200d.2642.fe0f
person_climbing_medium-light_skin_tone=1f9d7.1f3fc
woman_climbing_medium-light_skin_tone=1f9d7.1f3fc.200d.2640.fe0f
man_climbing_medium-light_skin_tone=1f9d7.1f3fc.200d.2642.fe0f
person_climbing_medium_skin_tone=1f9d7.1f3fd
woman_climbing_medium_skin_tone=1f9d7.1f3fd.200d.2640.fe0f
man_climbing_medium_skin_tone=1f9d7.1f3fd.200d.2642.fe0f
person_climbing_medium-dark_skin_tone=1f9d7.1f3fe
woman_climbing_medium-dark_skin_tone=1f9d7.1f3fe.200d.2640.fe0f
man_climbing_medium-dark_skin_tone=1f9d7.1f3fe.200d.2642.fe0f
person_climbing_dark_skin_tone=1f9d7.1f3ff
woman_climbing_dark_skin_tone=1f9d7.1f3ff.200d.2640.fe0f
man_climbing_dark_skin_tone=1f9d7.1f3ff.200d.2642.fe0f person_in_lotus_position=1f9d8
woman_in_lotus_position=1f9d8.200d.2640.fe0f man_in_lotus_position=1f9d8.200d.2642.fe0f
person_in_lotus_position_light_skin_tone=1f9d8.1f3fb
woman_in_lotus_position_light_skin_tone=1f9d8.1f3fb.200d.2640.fe0f
man_in_lotus_position_light_skin_tone=1f9d8.1f3fb.200d.2642.fe0f
person_in_lotus_position_medium-light_skin_tone=1f9d8.1f3fc
woman_in_lotus_position_medium-light_skin_tone=1f9d8.1f3fc.200d.2640.fe0f
man_in_lotus_position_medium-light_skin_tone=1f9d8.1f3fc.200d.2642.fe0f
person_in_lotus_position_medium_skin_tone=1f9d8.1f3fd
woman_in_lotus_position_medium_skin_tone=1f9d8.1f3fd.200d.2640.fe0f
man_in_lotus_position_medium_skin_tone=1f9d8.1f3fd.200d.2642.fe0f
person_in_lotus_position_medium-dark_skin_tone=1f9d8.1f3fe
woman_in_lotus_position_medium-dark_skin_tone=1f9d8.1f3fe.200d.2640.fe0f
man_in_lotus_position_medium-dark_skin_tone=1f9d8.1f3fe.200d.2642.fe0f
person_in_lotus_position_dark_skin_tone=1f9d8.1f3ff
woman_in_lotus_position_dark_skin_tone=1f9d8.1f3ff.200d.2640.fe0f
man_in_lotus_position_dark_skin_tone=1f9d8.1f3ff.200d.2642.fe0f mage=1f9d9
woman_mage=1f9d9.200d.2640.fe0f man_mage=1f9d9.200d.2642.fe0f mage_light_skin_tone=1f9d9.1f3fb
woman_mage_light_skin_tone=1f9d9.1f3fb.200d.2640.fe0f
man_mage_light_skin_tone=1f9d9.1f3fb.200d.2642.fe0f mage_medium-light_skin_tone=1f9d9.1f3fc
woman_mage_medium-light_skin_tone=1f9d9.1f3fc.200d.2640.fe0f
man_mage_medium-light_skin_tone=1f9d9.1f3fc.200d.2642.fe0f mage_medium_skin_tone=1f9d9.1f3fd
woman_mage_medium_skin_tone=1f9d9.1f3fd.200d.2640.fe0f
man_mage_medium_skin_tone=1f9d9.1f3fd.200d.2642.fe0f mage_medium-dark_skin_tone=1f9d9.1f3fe
woman_mage_medium-dark_skin_tone=1f9d9.1f3fe.200d.2640.fe0f
man_mage_medium-dark_skin_tone=1f9d9.1f3fe.200d.2642.fe0f mage_dark_skin_tone=1f9d9.1f3ff
woman_mage_dark_skin_tone=1f9d9.1f3ff.200d.2640.fe0f
man_mage_dark_skin_tone=1f9d9.1f3ff.200d.2642.fe0f fairy=1f9da woman_fairy=1f9da.200d.2640.fe0f
man_fairy=1f9da.200d.2642.fe0f fairy_light_skin_tone=1f9da.1f3fb
woman_fairy_light_skin_tone=1f9da.1f3fb.200d.2640.fe0f
man_fairy_light_skin_tone=1f9da.1f3fb.200d.2642.fe0f fairy_medium-light_skin_tone=1f9da.1f3fc
woman_fairy_medium-light_skin_tone=1f9da.1f3fc.200d.2640.fe0f
man_fairy_medium-light_skin_tone=1f9da.1f3fc.200d.2642.fe0f fairy_medium_skin_tone=1f9da.1f3fd
woman_fairy_medium_skin_tone=1f9da.1f3fd.200d.2640.fe0f
man_fairy_medium_skin_tone=1f9da.1f3fd.200d.2642.fe0f fairy_medium-dark_skin_tone=1f9da.1f3fe
woman_fairy_medium-dark_skin_tone=1f9da.1f3fe.200d.2640.fe0f
man_fairy_medium-dark_skin_tone=1f9da.1f3fe.200d.2642.fe0f fairy_dark_skin_tone=1f9da.1f3ff
woman_fairy_dark_skin_tone=1f9da.1f3ff.200d.2640.fe0f
man_fairy_dark_skin_tone=1f9da.1f3ff.200d.2642.fe0f vampire=1f9db
woman_vampire=1f9db.200d.2640.fe0f man_vampire=1f9db.200d.2642.fe0f
vampire_light_skin_tone=1f9db.1f3fb woman_vampire_light_skin_tone=1f9db.1f3fb.200d.2640.fe0f
man_vampire_light_skin_tone=1f9db.1f3fb.200d.2642.fe0f
vampire_medium-light_skin_tone=1f9db.1f3fc
woman_vampire_medium-light_skin_tone=1f9db.1f3fc.200d.2640.fe0f
man_vampire_medium-light_skin_tone=1f9db.1f3fc.200d.2642.fe0f
vampire_medium_skin_tone=1f9db.1f3fd woman_vampire_medium_skin_tone=1f9db.1f3fd.200d.2640.fe0f
man_vampire_medium_skin_tone=1f9db.1f3fd.200d.2642.fe0f
vampire_medium-dark_skin_tone=1f9db.1f3fe
woman_vampire_medium-dark_skin_tone=1f9db.1f3fe.200d.2640.fe0f
man_vampire_medium-dark_skin_tone=1f9db.1f3fe.200d.2642.fe0f vampire_dark_skin_tone=1f9db.1f3ff
woman_vampire_dark_skin_tone=1f9db.1f3ff.200d.2640.fe0f
man_vampire_dark_skin_tone=1f9db.1f3ff.200d.2642.fe0f merperson=1f9dc
mermaid=1f9dc.200d.2640.fe0f merman=1f9dc.200d.2642.fe0f merperson_light_skin_tone=1f9dc.1f3fb
mermaid_light_skin_tone=1f9dc.1f3fb.200d.2640.fe0f
merman_light_skin_tone=1f9dc.1f3fb.200d.2642.fe0f merperson_medium-light_skin_tone=1f9dc.1f3fc
mermaid_medium-light_skin_tone=1f9dc.1f3fc.200d.2640.fe0f
merman_medium-light_skin_tone=1f9dc.1f3fc.200d.2642.fe0f merperson_medium_skin_tone=1f9dc.1f3fd
mermaid_medium_skin_tone=1f9dc.1f3fd.200d.2640.fe0f
merman_medium_skin_tone=1f9dc.1f3fd.200d.2642.fe0f merperson_medium-dark_skin_tone=1f9dc.1f3fe
mermaid_medium-dark_skin_tone=1f9dc.1f3fe.200d.2640.fe0f
merman_medium-dark_skin_tone=1f9dc.1f3fe.200d.2642.fe0f merperson_dark_skin_tone=1f9dc.1f3ff
mermaid_dark_skin_tone=1f9dc.1f3ff.200d.2640.fe0f
merman_dark_skin_tone=1f9dc.1f3ff.200d.2642.fe0f elf=1f9dd woman_elf=1f9dd.200d.2640.fe0f
man_elf=1f9dd.200d.2642.fe0f elf_light_skin_tone=1f9dd.1f3fb
woman_elf_light_skin_tone=1f9dd.1f3fb.200d.2640.fe0f
man_elf_light_skin_tone=1f9dd.1f3fb.200d.2642.fe0f elf_medium-light_skin_tone=1f9dd.1f3fc
woman_elf_medium-light_skin_tone=1f9dd.1f3fc.200d.2640.fe0f
man_elf_medium-light_skin_tone=1f9dd.1f3fc.200d.2642.fe0f elf_medium_skin_tone=1f9dd.1f3fd
woman_elf_medium_skin_tone=1f9dd.1f3fd.200d.2640.fe0f
man_elf_medium_skin_tone=1f9dd.1f3fd.200d.2642.fe0f elf_medium-dark_skin_tone=1f9dd.1f3fe
woman_elf_medium-dark_skin_tone=1f9dd.1f3fe.200d.2640.fe0f
man_elf_medium-dark_skin_tone=1f9dd.1f3fe.200d.2642.fe0f elf_dark_skin_tone=1f9dd.1f3ff
woman_elf_dark_skin_tone=1f9dd.1f3ff.200d.2640.fe0f
man_elf_dark_skin_tone=1f9dd.1f3ff.200d.2642.fe0f genie=1f9de woman_genie=1f9de.200d.2640.fe0f
man_genie=1f9de.200d.2642.fe0f zombie=1f9df woman_zombie=1f9df.200d.2640.fe0f
man_zombie=1f9df.200d.2642.fe0f brain=1f9e0 orange_heart=1f9e1 billed_cap=1f9e2 scarf=1f9e3
gloves=1f9e4 coat=1f9e5 socks=1f9e6 red_envelope=1f9e7 firecracker=1f9e8 jigsaw=1f9e9
test_tube=1f9ea petri_dish=1f9eb dna=1f9ec compass=1f9ed abacus=1f9ee fire_extinguisher=1f9ef
toolbox=1f9f0 brick=1f9f1 magnet=1f9f2 luggage=1f9f3 lotion_bottle=1f9f4 thread=1f9f5 yarn=1f9f6
safety_pin=1f9f7 teddy_bear=1f9f8 broom=1f9f9 basket=1f9fa roll_of_paper=1f9fb soap=1f9fc
sponge=1f9fd receipt=1f9fe nazar_amulet=1f9ff ballet_shoes=1fa70 one-piece_swimsuit=1fa71
briefs=1fa72 shorts=1fa73 drop_of_blood=1fa78 adhesive_bandage=1fa79 stethoscope=1fa7a
yo-yo=1fa80 kite=1fa81 ringed_planet=1fa90 chair=1fa91 razor=1fa92 axe=1fa93 diya_lamp=1fa94
banjo=1fa95".toList).flatMap readEmoji

/-- The emoji with a name. -/
def emoji? (name : List Char) : Option (List Char) :=
  (emojiTable.find? fun e ↦ e.1 == name).map (·.2)

/-! ## Emoji in a text -/

/-- The variants that a name can be followed by, each with the mark that selects it. -/
def emojiVariants : List (List Char × Char) :=
  [("-emoji".toList, '\uFE0F'), ("-text".toList, '\uFE0E')]

/-- What ends a name: a colon, with a variant before it or not. Yields the marks for the variant,
what was read, and what follows. -/
def endOfEmoji? (cs : List Char) : Option (List Char × List Char × List Char) :=
  let ends := emojiVariants.map (fun v ↦ (v.1 ++ [':'], [v.2])) ++ [([':'], [])]
  ends.findSome? fun (ending, marks) ↦ (after? ending cs).map fun rest ↦ (marks, ending, rest)

/-- The emoji that a name and its variant stand for, and what follows, after a colon; `name` is what
the name has so far. A name has no blanks. Yields the text as it is if there is no such emoji, and
nothing if there is no second colon. -/
def namedEmoji? (name : List Char) : List Char → Option (List Char × List Char)
  | [] => none
  | c :: cs =>
    match endOfEmoji? (c :: cs) with
    | some (marks, ending, rest) =>
      match emoji? (lower name) with
      | some emoji => some (emoji ++ marks, rest)
      | none => some (':' :: name ++ ending, rest)
    | none => if isBlank c then none else namedEmoji? (name ++ [c]) cs

theorem length_lt_of_after? {start cs rest : List Char} (hne : start ≠ [])
    (h : after? start cs = some rest) : rest.length < cs.length := by
  have := List.length_pos_iff.2 hne
  rw [eq_append_of_after? h, List.length_append]
  omega

theorem length_lt_of_endOfEmoji? {cs : List Char} {r : List Char × List Char × List Char}
    (h : endOfEmoji? cs = some r) : r.2.2.length < cs.length := by
  obtain ⟨e, he, hr⟩ := List.exists_of_findSome?_eq_some h
  obtain ⟨rest, hrest, rfl⟩ := Option.map_eq_some_iff.1 hr
  refine length_lt_of_after? ?_ hrest
  rcases List.mem_append.1 he with h | h
  · obtain ⟨v, _, rfl⟩ := List.mem_map.1 h
    simp
  · simp [List.mem_singleton.1 h]

theorem length_lt_of_namedEmoji? {name cs : List Char} {r : List Char × List Char}
    (h : namedEmoji? name cs = some r) : r.2.length < cs.length := by
  fun_induction namedEmoji? name cs with
  | case1 => cases h
  | case2 name c cs marks ending rest hend emoji hemoji =>
    cases h
    exact length_lt_of_endOfEmoji? hend
  | case3 name c cs marks ending rest hend hemoji =>
    cases h
    exact length_lt_of_endOfEmoji? hend
  | case4 => cases h
  | case5 name c cs hend hblank ih => exact Nat.lt_succ_of_lt (ih h)

/-- The text with the emoji that it names. -/
def withEmoji (cs : List Char) : List Char :=
  match cs with
  | [] => []
  | c :: cs =>
    if c == ':' then
      match _h : namedEmoji? [] cs with
      | some (shown, rest) => shown ++ withEmoji rest
      | none => c :: withEmoji cs
    else c :: withEmoji cs
termination_by cs.length
decreasing_by
  · have := length_lt_of_namedEmoji? _h
    simp only [List.length_cons] at this ⊢
    omega
  all_goals simp

end DiagramForge.Text
